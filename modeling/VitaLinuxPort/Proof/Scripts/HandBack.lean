import VitaLinuxPort.Proof.Scripts.Ownership

/-!
# The renderer is gone when the framebuffer is handed back

Both scripts write `SAVE` back and bind the console again. They do so under a live renderer in two
ways only: a signal ends `start-demo-cart.sh` while the renderer runs and `started` is still 0, or
`stop-demo-cart.sh` goes on although the renderer has outlived the wait. Where neither happens the
renderer is dead at every such command.
-/

namespace VitaLinuxPort

namespace CartBox

variable {frameBytes : Nat} {s t : CartBox}

/-- The next command writes `SAVE` to the framebuffer or 1 to `BIND`. -/
def AtHandBack (s : CartBox) : Prop :=
  match s.script with
  | .cleanup .restore _ _ | .cleanup .rebind _ _ | .stop .restore _ | .stop .rebind _ => True
  | _ => False

/-- The step goes on to hand the framebuffer back while the renderer is alive. -/
def Abandons (s : CartBox) : BoxEvent → Bool
  | .signal _ => match s.script with
    | .start _ false => s.renderer.isSome
    | _ => false
  | .go _ => match s.script with
    | .stop .waited _ => s.cartPidMatches
    | _ => false
  | _ => false

/-- The points from which the scripts go on to hand the framebuffer back, or that only a dead
renderer leads to. -/
def RendererGone : Script → Prop
  | .start .matching _ | .start .announce _ | .start .stayed _ | .start .adopt _
  | .start .leave true => False
  | .start _ _ => True
  | .cleanup .dropTmp true _ => False
  | .cleanup _ _ _ => True
  | .stop .matching _ | .stop .terminate _ | .stop (.waiting _) _ | .stop .waited _ => False
  | .stop _ _ => True
  | .none | .finished _ _ => False

theorem AtHandBack.rendererGone (h : s.AtHandBack) : RendererGone s.script := by
  unfold AtHandBack at h
  split at h
  case h_5 => exact h.elim
  all_goals
    rename_i hscript
    rw [hscript]
    trivial

/-- `PID` names the renderer while it is alive, and the scripts do not get past their tests of it. -/
structure Watched (s : CartBox) : Prop where
  pid : ∀ pid ∈ s.renderer, s.pid = some pid
  gone : RendererGone s.script → s.renderer = none

namespace Watched

/-- The renderer may be alive where the script goes to. -/
theorem goto (h : Watched s) {script : Script} (halive : ¬ RendererGone script) :
    Watched (s.goto script) :=
  ⟨h.pid, fun hgone => absurd hgone halive⟩

theorem of_dead (hdead : s.renderer = none) : Watched s where
  pid pid hmem := by simp [hdead] at hmem
  gone _ := hdead

theorem startStep (h : Watched s) {point : StartPoint} {started : Bool}
    (hscript : s.script = .start point started) (reply : Reply) :
    Watched (s.startStep frameBytes started point reply) := by
  have hgone := h.gone
  rw [hscript] at hgone
  fun_cases CartBox.startStep frameBytes s started point reply
  case case1 | case3 | case17 | case20 => exact h.goto id
  case case2 hnot | case18 hnot =>
      exact of_dead (renderer_eq_none_of_not_matches h.pid hnot)
  case case16 pid =>
      -- the renderer is launched, and `PID` names it
      exact ⟨fun _ => id, fun hgone => hgone.elim⟩
  case case21 =>
      cases started with
      | true => exact h.goto id
      | false => exact of_dead (hgone trivial)
  all_goals exact of_dead (hgone trivial)

theorem cleanupStep (h : Watched s) {point : CleanupPoint} {started : Bool} {status : Nat}
    (hscript : s.script = .cleanup point started status) (reply : Reply) :
    Watched (s.cleanupStep frameBytes started status point reply) := by
  have hgone := h.gone
  rw [hscript] at hgone
  fun_cases CartBox.cleanupStep frameBytes s started status point reply
  case case1 => exact ⟨h.pid, fun hgone => hgone.elim⟩
  case case2 hnot _ =>
      obtain rfl : started = false := by simpa using hnot
      exact of_dead (hgone trivial)
  case case3 => exact h.goto id
  all_goals exact of_dead (hgone trivial)

theorem stopStep (h : Watched s) {point : StopPoint} {status : Nat}
    (hscript : s.script = .stop point status) {reply : Reply}
    (hkeeps : ¬ Abandons s (.go reply)) : Watched (s.stopStep frameBytes status point reply) := by
  have hgone := h.gone
  rw [hscript] at hgone
  fun_cases CartBox.stopStep frameBytes s status point reply
  case case2 hnot | case8 hnot => exact of_dead (renderer_eq_none_of_not_matches h.pid hnot)
  case case1 | case3 | case4 | case5 | case6 => exact h.goto id
  case case7 hmatches =>
      exact absurd (by rw [Abandons, hscript]; exact hmatches) hkeeps
  all_goals exact of_dead (hgone trivial)

end Watched

theorem Watched.step (h : Watched s) {event : BoxEvent} (hkeeps : ¬ Abandons s event)
    (hstep : Steps frameBytes s event t) : Watched t := by
  rw [Steps] at hstep
  revert hstep
  fun_cases CartBox.next frameBytes s event <;> intro hstep <;> cases hstep
  case case6 hscript => exact h.startStep hscript _
  case case7 hscript => exact h.cleanupStep hscript _
  case case8 hscript => exact h.stopStep hscript hkeeps
  case case10 signal point started hscript =>
      cases started with
      | true => exact h.goto id
      | false =>
          -- the signal finds no renderer
          refine of_dead (Option.not_isSome_iff_eq_none.mp fun halive => hkeeps ?_)
          rw [Abandons, hscript]
          exact halive
  case case14 => exact of_dead rfl
  case case16 => exact ⟨h.pid, h.gone⟩
  all_goals exact h.goto id

/-- The console bound and nothing started yet. -/
private def idle (fb : List UInt8) : CartBox :=
  ⟨fb, true, none, none, none, false, none, .none⟩

private def commands (n : Nat) : List BoxEvent := List.replicate n (.go .ok)

/-- A start, and a stop that the renderer is slow to obey, up to the rebinding of the console. -/
private def slowStop : List BoxEvent :=
  .run .start :: commands 9 ++ .go (.forked 7) :: commands 4 ++ .draw [9, 9] :: .run .stop ::
    commands 20 ++ .die :: commands 8

private theorem commands_add (m n : Nat) : commands (m + n) = commands m ++ commands n :=
  List.replicate_add m n _

/-- Renderer 7 was launched and the start sleeps. -/
private def launched (fb : List UInt8) : CartBox :=
  ⟨fb, false, some 7, some (fb.take ddBytes), none, true, some 7, .start .stayed false⟩

private theorem run_launched {fb : List UInt8} (hfb : fb.length = ddBytes) :
    Run (Steps ddBytes) (idle fb) (.run .start :: commands 9 ++ [.go (.forked 7)])
      (launched fb) := by
  -- the steps between the tests of a length are computed
  have hcaptured : Run (Steps ddBytes) (idle fb) (.run .start :: commands 4)
      ⟨fb, true, none, none, some (fb.take ddBytes), false, none, .start .measure false⟩ :=
    Run.of_execute rfl
  have hmeasured := hcaptured.concat (a := .go .ok)
    (u := ⟨fb, true, none, none, some (fb.take ddBytes), false, none, .start .publish false⟩)
    (by simp [Steps, next, CartBox.startStep, hfb])
  have hlaunching : Run (Steps ddBytes)
      ⟨fb, true, none, none, some (fb.take ddBytes), false, none, .start .publish false⟩
      (commands 4 ++ [.go (.forked 7)]) (launched fb) :=
    Run.of_execute rfl
  have hall := Run.append_iff.mpr ⟨_, hmeasured, hlaunching⟩
  rw [commands_add 5 4, commands_add 4 1]
  simpa [commands] using hall

private theorem run_signalled {fb : List UInt8} (hfb : fb.length = ddBytes) :
    Run (Steps ddBytes) (launched fb) (.signal .term :: commands 3)
      { launched fb with script := .cleanup .restore false 143 } := by
  have hsignalled : Run (Steps ddBytes) (launched fb) (.signal .term :: commands 2)
      { launched fb with script := .cleanup .sized false 143 } :=
    Run.of_execute rfl
  have hsized := hsignalled.concat (a := .go .ok)
    (u := { launched fb with script := .cleanup .restore false 143 })
    (by simp [Steps, next, CartBox.cleanupStep, saveHasExpectedSize, launched, hfb])
  rw [commands_add 2 1]
  exact hsized

private theorem run_waiting (fb : List UInt8) {k : Nat} (hk : k ≤ 30) :
    Run (Steps ddBytes) { launched fb with script := .stop (.waiting 0) 0 } (commands k)
      { launched fb with script := .stop (.waiting k) 0 } := by
  induction k with
  | zero => exact .nil _
  | succ k ih =>
      rw [commands_add k 1]
      refine (ih (by omega)).concat ?_
      simp [Steps, next, CartBox.stopStep, cartPidMatches, launched, show k < 30 by omega]

private theorem run_waited {fb : List UInt8} (hfb : fb.length = ddBytes) :
    Run (Steps ddBytes) (launched fb) (commands 4 ++ .run .stop :: commands 36)
      { launched fb with script := .stop .restore 1 } := by
  have hstopping : Run (Steps ddBytes) (launched fb) (commands 4 ++ .run .stop :: commands 2)
      { launched fb with script := .stop (.waiting 0) 0 } :=
    Run.of_execute rfl
  have hgivenUp : Run (Steps ddBytes) { launched fb with script := .stop (.waiting 30) 0 }
      (commands 3) { launched fb with script := .stop .sized 1 } :=
    Run.of_execute rfl
  have hsized := hgivenUp.concat (a := .go .ok)
    (u := { launched fb with script := .stop .restore 1 })
    (by simp [Steps, next, CartBox.stopStep, saveHasExpectedSize, launched, hfb])
  have hwaited := Run.append_iff.mpr ⟨_, run_waiting fb (Nat.le_refl 30), hsized⟩
  have hall := Run.append_iff.mpr ⟨_, hstopping, hwaited⟩
  rw [commands_add 2 34, commands_add 30 4, commands_add 3 1]
  simpa [commands] using hall

end CartBox

end VitaLinuxPort
