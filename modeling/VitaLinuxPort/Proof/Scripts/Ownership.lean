import VitaLinuxPort.Cart.Scripts
import VitaLinuxPort.Lib.Run

/-!
# Handing the framebuffer back

`start-demo-cart.sh` saves the framebuffer and notes that the console was bound; `stop-demo-cart.sh`
puts both back and forgets them. Until then `SAVE` and `MARK` are the only memory of what was there
before, and two things lose it. A start that goes ahead after a crash deletes `MARK` and replaces
`SAVE` by what the renderer left. A script that writes `SAVE` back under a live renderer deletes it,
and the renderer draws on. A run without either gives back what it took.
-/

namespace VitaLinuxPort

@[simp] theorem length_overwrite (fb data : List UInt8) :
    (overwrite fb data).length = fb.length := by
  simp only [overwrite, List.length_append, List.length_take, List.length_drop]
  omega

theorem drop_overwrite {fb data : List UInt8} {n : Nat} (h : data.length ≤ n) :
    (overwrite fb data).drop n = fb.drop n := by
  by_cases hfb : data.length ≤ fb.length
  · rw [overwrite, List.take_of_length_le hfb, List.drop_append, List.drop_eq_nil_of_le h,
      List.nil_append, List.drop_drop, Nat.add_sub_cancel' h]
  · rw [List.drop_eq_nil_of_le (by rw [length_overwrite]; omega), List.drop_eq_nil_of_le (by omega)]

/-- A framebuffer of which only the first bytes changed gets its contents back. -/
theorem overwrite_take {fb original : List UInt8} {n : Nat} (hlength : fb.length = original.length)
    (htail : fb.drop n = original.drop n) : overwrite fb (original.take n) = original := by
  have hfits : (original.take n).length ≤ fb.length := by
    rw [List.length_take, hlength]
    exact Nat.min_le_right _ _
  rw [overwrite, List.take_of_length_le hfits, List.length_take]
  by_cases hn : n ≤ original.length
  · rw [Nat.min_eq_left hn, htail, List.take_append_drop]
  · have hall : original.length ≤ n := by omega
    rw [Nat.min_eq_right hall, List.drop_eq_nil_of_le (Nat.le_of_eq hlength), List.append_nil,
      List.take_of_length_le hall]

theorem eq_of_take_eq {fb original : List UInt8} {n : Nat} (hhead : fb.take n = original.take n)
    (htail : fb.drop n = original.drop n) : fb = original := by
  rw [← List.take_append_drop n fb, hhead, htail, List.take_append_drop]

namespace CartBox

variable {frameBytes : Nat} {original : List UInt8} {wasBound : Bool} {s t : CartBox} {script : Script}

/-- What is known at the points of the scripts where something is about to be overwritten, deleted
or reported. -/
def Here (original : List UInt8) (wasBound : Bool) (s : CartBox) : Script → Prop
  | .start .executable _ | .start .discard _ | .start .dropPid _ | .stop .retire _ =>
      s.renderer = none
  | .start .capture _ => s.renderer = none ∧ s.mark = false ∧ s.fb = original
  | .start .measure _ | .start .publish _ =>
      s.renderer = none ∧ s.mark = false ∧ s.fb = original ∧ s.saveTmp = some (original.take ddBytes)
  | .start .bound _ => s.renderer = none ∧ s.mark = false ∧ s.save.isSome = true
  | .start .mark _ => s.renderer = none ∧ s.save.isSome = true ∧ wasBound = true
  | .start .unbind _ => s.renderer = none ∧ s.save.isSome = true ∧ s.mark = true
  | .start .launch _ => s.renderer = none ∧ s.save.isSome = true
  | .cleanup .dropSave _ _ | .stop .dropSave _ => s.renderer = none ∧ s.fb = original
  | .cleanup .rebind _ _ => s.mark = true
  | .cleanup .dropMark _ _ => s.bind = wasBound
  | .stop .marked status => status = 0 → s.renderer = none ∧ s.fb = original
  | .stop .rebind status => s.mark = true ∧ (status = 0 → s.renderer = none ∧ s.fb = original)
  | .stop .dropMark status => s.bind = wasBound ∧ (status = 0 → s.renderer = none ∧ s.fb = original)
  | .stop .leave status | .finished .stop status =>
      status = 0 → s.bind = wasBound ∧ s.renderer = none ∧ s.fb = original
  | _ => True

/-- The scripts remember the framebuffer and the bind flag that they took over: what `SAVE` and
`MARK` do not tell is still in place. -/
structure Remembers (original : List UInt8) (wasBound : Bool) (s : CartBox) : Prop where
  length : s.fb.length = original.length
  tail : s.fb.drop ddBytes = original.drop ddBytes
  save : ∀ save ∈ s.save, save = original.take ddBytes
  frame : s.save = none → s.fb = original
  mark : s.mark = true → wasBound = true
  console : s.mark = false → s.bind = wasBound
  pid : ∀ pid ∈ s.renderer, s.pid = some pid
  saved : s.renderer.isSome = true → s.save.isSome = true
  here : Here original wasBound s s.script

/-- The step loses what was there before: a start goes ahead while `MARK` exists or while `SAVE`
differs from the framebuffer, or `SAVE` is written back while the renderer is alive. -/
def Loses (s : CartBox) : BoxEvent → Prop
  | .go reply => match s.script with
    | .start .discard _ => reply = .ok ∧ (s.mark = true ∨ ∃ save ∈ s.save, save ≠ s.fb.take ddBytes)
    | .cleanup .restore _ _ | .stop .restore _ => s.renderer.isSome = true
    | _ => False
  | _ => False

/-- Where `PID` names the renderer while it is alive, `cart_pid_matches` tells whether it is. -/
theorem cartPidMatches_iff (hnamed : ∀ pid ∈ s.renderer, s.pid = some pid) :
    s.cartPidMatches = true ↔ s.renderer.isSome = true := by
  cases hrenderer : s.renderer with
  | none => cases hpid : s.pid <;> simp [cartPidMatches, hrenderer, hpid]
  | some pid => simp [cartPidMatches, hrenderer, hnamed pid hrenderer]

theorem renderer_eq_none_of_not_matches (hnamed : ∀ pid ∈ s.renderer, s.pid = some pid)
    (hnot : ¬ s.cartPidMatches = true) : s.renderer = none := by
  rw [cartPidMatches_iff hnamed, Bool.not_eq_true] at hnot
  exact Option.isNone_iff_eq_none.mp (by rw [← Option.not_isSome, hnot]; rfl)

namespace Remembers

theorem goto (h : Remembers original wasBound s) (here : Here original wasBound s script) :
    Remembers original wasBound (s.goto script) :=
  { h with here := here }

theorem fb_eq (h : Remembers original wasBound s)
    (hsave : ∀ save ∈ s.save, save = s.fb.take ddBytes) : s.fb = original := by
  cases hcase : s.save with
  | none => exact h.frame hcase
  | some save => exact eq_of_take_eq ((hsave save hcase).symm.trans (h.save save hcase)) h.tail

theorem writeBack_fb (h : Remembers original wasBound s) :
    (s.writeBack ddBytes).fb = original := by
  cases hcase : s.save with
  | none => simp [hcase, overwrite, h.frame hcase]
  | some save =>
      have hwhole : (save.take ddBytes).take ddBytes = original.take ddBytes := by
        rw [h.save save hcase, List.take_take, List.take_take, Nat.min_self, Nat.min_self]
      simp only [hcase, Option.getD_some, hwhole]
      exact overwrite_take h.length h.tail

theorem writeBack (h : Remembers original wasBound s) {copied : Nat}
    (here : Here original wasBound (s.writeBack copied) script) :
    Remembers original wasBound ((s.writeBack copied).goto script) where
  length := by rw [length_overwrite, h.length]
  tail := by
    rw [drop_overwrite _, h.tail]
    rw [List.length_take, List.length_take]
    omega
  save := h.save
  frame := by
    intro (hnone : s.save = none)
    simp [hnone, overwrite, h.frame hnone]
  mark := h.mark
  console := h.console
  pid := h.pid
  saved := h.saved
  here := here

theorem dropPid (h : Remembers original wasBound s) (hdead : s.renderer = none)
    (here : Here original wasBound { s with pid := none } script) :
    Remembers original wasBound { s.goto script with pid := none } :=
  { h with
    pid := fun pid (hpid : s.renderer = some pid) => by simp [hdead] at hpid
    here := here }

/-- `SAVE` is deleted once the framebuffer is what it tells and nobody draws. -/
theorem dropSave (h : Remembers original wasBound s) (hdead : s.renderer = none)
    (hfb : s.fb = original) (here : Here original wasBound { s with save := none } script) :
    Remembers original wasBound { s.goto script with save := none } :=
  { h with
    save := nofun
    frame := fun _ => hfb
    saved := fun (halive : s.renderer.isSome = true) => by simp [hdead] at halive
    here := here }

theorem rebind (h : Remembers original wasBound s) (hmark : s.mark = true)
    (here : Here original wasBound { s with bind := true } script) :
    Remembers original wasBound { s.goto script with bind := true } :=
  { h with
    console := fun _ => (h.mark hmark).symm
    here := here }

/-- `MARK` is deleted once the bind flag is what it tells. -/
theorem dropMark (h : Remembers original wasBound s) (hbind : s.bind = wasBound)
    (here : Here original wasBound { s with mark := false } script) :
    Remembers original wasBound { s.goto script with mark := false } :=
  { h with
    mark := nofun
    console := fun _ => hbind
    here := here }

theorem startStep (h : Remembers original wasBound s) {point : StartPoint} {started : Bool}
    (hscript : s.script = .start point started) {reply : Reply} (hkeeps : ¬ Loses s (.go reply)) :
    Remembers original wasBound (s.startStep frameBytes started point reply) := by
  have here := h.here
  rw [hscript] at here
  fun_cases CartBox.startStep frameBytes s started point reply
  case case2 hnot => exact h.goto (renderer_eq_none_of_not_matches h.pid hnot)
  case case4 => exact h.goto here
  case case5 =>
      -- the markers are deleted: they told nothing that is not still in place
      have hcondition : ¬ (s.mark = true ∨ ∃ save ∈ s.save, save ≠ s.fb.take ddBytes) := by
        simpa [Loses, hscript] using hkeeps
      obtain ⟨hmark, hsave⟩ := not_or.mp hcondition
      rw [Bool.not_eq_true] at hmark
      have hfb : s.fb = original := h.fb_eq fun save hmem => by
        by_contra hne
        exact hsave ⟨save, hmem, hne⟩
      have hdead : s.renderer = none := here
      exact { h with
        mark := nofun
        console := fun _ => h.console hmark
        pid := fun pid (hpid : s.renderer = some pid) => by simp [hdead] at hpid
        here := ⟨hdead, rfl, hfb⟩ }
  case case6 =>
      -- `SAVE_TMP` is captured
      obtain ⟨hdead, hmark, hfb⟩ := here
      exact { h with here := ⟨hdead, hmark, hfb, by rw [hfb]⟩ }
  case case7 => exact { h with here := trivial }
  case case8 => exact h.goto here
  case case10 =>
      -- and becomes `SAVE`
      obtain ⟨hdead, hmark, hfb, htmp⟩ := here
      exact { h with
        save := fun save hmem => by simpa [htmp] using hmem.symm
        frame := fun _ => hfb
        saved := fun _ => by simp [htmp]
        here := ⟨hdead, hmark, by simp [htmp]⟩ }
  case case11 hbound =>
      -- the console is found bound
      obtain ⟨hdead, hmark, hsaved⟩ := here
      exact h.goto ⟨hdead, hsaved, (h.console hmark).symm.trans hbound⟩
  case case12 => exact h.goto ⟨here.1, here.2.2⟩
  case case13 => exact h.goto ⟨here.1, here.2.2⟩
  case case14 =>
      -- `MARK` is set
      obtain ⟨hdead, hsaved, hbound⟩ := here
      exact { h with
        mark := fun _ => hbound
        console := nofun
        here := ⟨hdead, hsaved, rfl⟩ }
  case case15 =>
      -- the console is unbound
      obtain ⟨hdead, hsaved, hmark⟩ := here
      exact { h with
        console := fun (hnot : s.mark = false) => by simp [hmark] at hnot
        here := ⟨hdead, hsaved⟩ }
  case case16 pid =>
      -- the renderer is launched
      exact { h with
        pid := fun _ => id
        saved := fun _ => here.2
        here := trivial }
  case case18 hnot => exact h.goto (renderer_eq_none_of_not_matches h.pid hnot)
  case case19 => exact h.dropPid here trivial
  -- what is left only moves on
  all_goals exact h.goto trivial

theorem cleanupStep (h : Remembers original wasBound s) {point : CleanupPoint} {started : Bool}
    {status : Nat} (hscript : s.script = .cleanup point started status) {reply : Reply}
    (hkeeps : ¬ Loses s (.go reply)) :
    Remembers original wasBound (s.cleanupStep frameBytes started status point reply) := by
  have here := h.here
  rw [hscript] at here
  fun_cases CartBox.cleanupStep frameBytes s started status point reply
  case case1 | case2 => exact { h with here := trivial }
  case case9 =>
      -- `SAVE` is written back
      have hdead : s.renderer = none := by simpa [Loses, hscript] using hkeeps
      exact h.writeBack ⟨hdead, h.writeBack_fb⟩
  case case10 => exact h.writeBack trivial
  case case11 => exact h.dropSave here.1 here.2 trivial
  case case13 hmark => exact h.goto hmark
  case case15 => exact h.rebind here (h.mark here).symm
  case case17 => exact h.dropMark here trivial
  all_goals exact h.goto trivial

theorem stopStep (h : Remembers original wasBound s) {point : StopPoint} {status : Nat}
    (hscript : s.script = .stop point status) {reply : Reply} (hkeeps : ¬ Loses s (.go reply)) :
    Remembers original wasBound (s.stopStep frameBytes status point reply) := by
  have here := h.here
  rw [hscript] at here
  fun_cases CartBox.stopStep frameBytes s status point reply
  case case2 hnot | case8 hnot => exact h.goto (renderer_eq_none_of_not_matches h.pid hnot)
  case case9 => exact h.dropPid here trivial
  case case12 hsave =>
      -- nothing was saved, so nothing was taken and no renderer runs
      rw [Bool.not_eq_true, Option.isSome_eq_false_iff, Option.isNone_iff_eq_none] at hsave
      refine h.goto fun _ => ⟨?_, h.frame hsave⟩
      by_contra halive
      have hsome := h.saved (Option.isSome_iff_ne_none.mpr halive)
      simp [hsave] at hsome
  case case14 | case15 => exact h.goto nofun
  case case16 =>
      -- `SAVE` is written back
      have hdead : s.renderer = none := by simpa [Loses, hscript] using hkeeps
      exact h.writeBack ⟨hdead, h.writeBack_fb⟩
  case case17 => exact h.writeBack nofun
  case case18 => exact h.dropSave here.1 here.2 fun _ => here
  case case19 => exact h.goto fun _ => here
  case case20 hmark => exact h.goto ⟨hmark, here⟩
  case case21 hmark => exact h.goto fun hzero => ⟨h.console (by simpa using hmark), here hzero⟩
  case case22 =>
      -- the console is bound again
      obtain ⟨hmark, hback⟩ := here
      exact h.rebind hmark ⟨(h.mark hmark).symm, hback⟩
  case case23 => exact h.goto nofun
  case case24 =>
      obtain ⟨hbind, hback⟩ := here
      exact h.dropMark hbind fun hzero => ⟨hbind, hback hzero⟩
  case case25 => exact h.goto fun hzero => ⟨here.1, here.2 hzero⟩
  case case26 => exact h.goto here
  all_goals exact h.goto trivial

end Remembers

attribute [local simp] Here

theorem Here.die (h : Here original wasBound s script) :
    Here original wasBound { s with renderer := none } script := by
  cases script with
  | none => trivial
  | start point started => cases point <;> simp_all
  | cleanup point started status => cases point <;> simp_all
  | stop point status => cases point <;> simp_all
  | finished name status => cases name <;> simp_all

theorem Here.draw (h : Here original wasBound s script) (halive : s.renderer.isSome = true)
    {fb : List UInt8} : Here original wasBound { s with fb := fb } script := by
  have hrenderer : s.renderer ≠ none := Option.isSome_iff_ne_none.mp halive
  cases script with
  | none => trivial
  | start point started => cases point <;> simp_all
  | cleanup point started status => cases point <;> simp_all
  | stop point status => cases point <;> simp_all
  | finished name status => cases name <;> simp_all

theorem Remembers.die (h : Remembers original wasBound s) :
    Remembers original wasBound { s with renderer := none } :=
  { h with
    pid := nofun
    saved := nofun
    here := h.here.die }

theorem Remembers.draw (h : Remembers original wasBound s) (halive : s.renderer.isSome = true)
    {pixels : List UInt8} (hlength : pixels.length ≤ mappedBytes) :
    Remembers original wasBound { s with fb := overwrite s.fb pixels } :=
  { h with
    length := (length_overwrite _ _).trans h.length
    tail := (drop_overwrite hlength).trans h.tail
    frame := by
      intro (hnone : s.save = none)
      have hsome := h.saved halive
      simp [hnone] at hsome
    here := h.here.draw halive }

theorem Remembers.step (h : Remembers original wasBound s) {event : BoxEvent}
    (hkeeps : ¬ Loses s event) (hstep : Steps frameBytes s event t) :
    Remembers original wasBound t := by
  rw [Steps] at hstep
  revert hstep
  fun_cases CartBox.next frameBytes s event <;> intro hstep <;> cases hstep
  case case6 hscript => exact h.startStep hscript hkeeps
  case case7 hscript => exact h.cleanupStep hscript hkeeps
  case case8 hscript => exact h.stopStep hscript hkeeps
  case case12 signal _ _ hscript =>
      have hstatus : signal.status ≠ 0 := by cases signal <;> decide
      exact h.goto fun hzero => absurd hzero hstatus
  case case14 => exact h.die
  case case16 halive => exact h.draw halive.1 halive.2
  all_goals exact h.goto trivial

/-- In a run that loses nothing, whenever `stop-demo-cart.sh` has exited with status 0 the renderer
is dead, and the bind flag and the framebuffer are what they were before the first start. -/
theorem stop_restores_of_loses_nothing {events : List BoxEvent} (hrenderer : s.renderer = none)
    (hsave : s.save = none) (hmark : s.mark = false) (hscript : s.script = .none)
    (hkeeps : ∀ past event rest u, events = past ++ event :: rest →
      Run (Steps frameBytes) s past u → ¬ Loses u event) :
    ∀ past u, past <+: events → Run (Steps frameBytes) s past u → u.script = .finished .stop 0 →
      u.renderer = none ∧ u.bind = s.bind ∧ u.fb = s.fb := by
  intro past u hpre hpast hstopped
  have hstart : Remembers s.fb s.bind s := {
    length := rfl
    tail := rfl
    save := by simp [hsave]
    frame := fun _ => rfl
    mark := by simp [hmark]
    console := fun _ => rfl
    pid := by simp [hrenderer]
    saved := by simp [hrenderer]
    here := by
      rw [hscript]
      trivial }
  have hremembers := Run.always_of_good hstart
    (fun _ _ _ _ hu hgood hstep => hu.step hgood hstep) hkeeps hpre hpast
  have here := hremembers.here
  rw [hstopped] at here
  obtain ⟨hbind, hdead, hfb⟩ := here rfl
  exact ⟨hdead, hbind, hfb⟩

instance decidableLoses (s : CartBox) (event : BoxEvent) : Decidable (Loses s event) := by
  unfold Loses
  split
  · split
    · exact inferInstanceAs (Decidable (_ ∧ (_ ∨ _)))
    · infer_instance
    · infer_instance
    · infer_instance
  · infer_instance

private def untouched (fb : List UInt8) : CartBox :=
  ⟨fb, true, none, none, none, false, none, .none⟩

private def oks (n : Nat) : List BoxEvent := List.replicate n (.go .ok)

private def startStop : List BoxEvent :=
  .run .start :: oks 9 ++ .go (.forked 7) :: oks 4 ++ .draw [9, 9] :: .run .stop :: oks 2 ++
    .die :: oks 11

theorem stop_restores_of_loses_nothing_startStop :
    ∃ t, Run (Steps 4) (untouched [1, 2, 3, 4]) startStop t ∧ t.script = .finished .stop 0 ∧
      t.renderer = none ∧ t.bind = true ∧ t.fb = [1, 2, 3, 4] := by
  have hkeeps : Throughout (next 4) (fun u event => ¬ Loses u event) (untouched [1, 2, 3, 4])
      startStop := by
    decide
  have hrun : Run (Steps 4) (untouched [1, 2, 3, 4]) startStop
      { untouched [1, 2, 3, 4] with script := .finished .stop 0 } :=
    Run.of_execute (by decide)
  exact ⟨_, hrun, rfl, stop_restores_of_loses_nothing rfl rfl rfl rfl hkeeps.good_of_run _ _
    (List.prefix_refl _) hrun rfl⟩

/-- A start whose renderer draws a frame and crashes, another start, and a stop that the renderer
obeys. -/
private def crashRestart (pixels : List UInt8) : List BoxEvent :=
  .run .start :: oks 9 ++ .go (.forked 7) :: oks 4 ++ .draw pixels :: .die :: .run .start :: oks 7 ++
    .go (.forked 8) :: oks 4 ++ .run .stop :: oks 2 ++ .die :: oks 9

private theorem run_crashRestart {fb pixels : List UInt8} (hfb : fb.length = ddBytes)
    (hpixels : pixels.length = ddBytes) :
    Run (Steps ddBytes) (untouched fb) (crashRestart pixels)
      ⟨pixels, false, none, none, none, false, none, .finished .stop 0⟩ := by
  have hdrawn : overwrite fb pixels = pixels := by
    rw [overwrite, List.drop_eq_nil_of_le (by omega), List.append_nil,
      List.take_of_length_le (by omega)]
  have hwhole : pixels.take ddBytes = pixels := List.take_of_length_le (by omega)
  have hagain : overwrite pixels pixels = pixels := by
    rw [overwrite, List.drop_length, List.append_nil, List.take_length]
  -- the steps between the tests of a length are computed
  have hcaptured : Run (Steps ddBytes) (untouched fb) (.run .start :: oks 4)
      ⟨fb, true, none, none, some (fb.take ddBytes), false, none, .start .measure false⟩ :=
    Run.of_execute rfl
  have hmeasured := hcaptured.concat (a := .go .ok)
    (u := ⟨fb, true, none, none, some (fb.take ddBytes), false, none, .start .publish false⟩)
    (by simp [Steps, next, startStep, hfb])
  have hstarting : Run (Steps ddBytes)
      ⟨fb, true, none, none, some (fb.take ddBytes), false, none, .start .publish false⟩
      (oks 4 ++ .go (.forked 7) :: oks 4)
      ⟨fb, false, some 7, some (fb.take ddBytes), none, true, some 7, .finished .start 0⟩ :=
    Run.of_execute rfl
  have hdrew := (Run.append_iff.mpr ⟨_, hmeasured, hstarting⟩).concat (a := .draw pixels)
    (u := ⟨pixels, false, some 7, some (fb.take ddBytes), none, true, some 7, .finished .start 0⟩)
    (by simp [Steps, next, hpixels, hdrawn, ddBytes, mappedBytes])
  have hrecaptured : Run (Steps ddBytes)
      ⟨pixels, false, some 7, some (fb.take ddBytes), none, true, some 7, .finished .start 0⟩
      (.die :: .run .start :: oks 4)
      ⟨pixels, false, none, some (fb.take ddBytes), some (pixels.take ddBytes), false, none,
        .start .measure false⟩ :=
    Run.of_execute rfl
  have hremeasured := (Run.append_iff.mpr ⟨_, hdrew, hrecaptured⟩).concat (a := .go .ok)
    (u := ⟨pixels, false, none, some (fb.take ddBytes), some (pixels.take ddBytes), false, none,
      .start .publish false⟩)
    (by simp [Steps, next, startStep, hpixels])
  have hstopping : Run (Steps ddBytes)
      ⟨pixels, false, none, some (fb.take ddBytes), some (pixels.take ddBytes), false, none,
        .start .publish false⟩
      (oks 2 ++ .go (.forked 8) :: oks 4 ++ .run .stop :: oks 2 ++ .die :: oks 4)
      ⟨pixels, false, none, some (pixels.take ddBytes), none, false, none, .stop .sized 0⟩ :=
    Run.of_execute rfl
  have hsized := (Run.append_iff.mpr ⟨_, hremeasured, hstopping⟩).concat (a := .go .ok)
    (u := ⟨pixels, false, none, some (pixels.take ddBytes), none, false, none, .stop .restore 0⟩)
    (by simp [Steps, next, stopStep, saveHasExpectedSize, hpixels])
  have hrestored := hsized.concat (a := .go .ok)
    (u := ⟨pixels, false, none, some (pixels.take ddBytes), none, false, none, .stop .dropSave 0⟩)
    (by simp [Steps, next, stopStep, hwhole, hagain])
  have hend : Run (Steps ddBytes)
      ⟨pixels, false, none, some (pixels.take ddBytes), none, false, none, .stop .dropSave 0⟩ (oks 3)
      ⟨pixels, false, none, none, none, false, none, .finished .stop 0⟩ :=
    Run.of_execute rfl
  have hall := Run.append_iff.mpr ⟨_, hrestored, hend⟩
  exact hall

/-- A blank framebuffer with the console bound. After start, crash, start and stop the console is
unbound and the framebuffer holds the frame that the crashed renderer drew. -/
theorem not_restored_after_crash :
    ∃ t, Run (Steps ddBytes) (untouched (List.replicate ddBytes 0))
        (crashRestart (List.replicate ddBytes 255)) t ∧
      t.script = .finished .stop 0 ∧ t.renderer = none ∧ t.bind ≠ true ∧
      t.fb ≠ List.replicate ddBytes 0 := by
  refine ⟨_, run_crashRestart List.length_replicate List.length_replicate, rfl, rfl, by decide, ?_⟩
  intro heq
  have hwhite : (255 : UInt8) ∈ List.replicate ddBytes 0 :=
    heq ▸ List.mem_replicate.mpr ⟨by decide, rfl⟩
  exact absurd (List.eq_of_mem_replicate hwhite) (by decide)

end CartBox

end VitaLinuxPort
