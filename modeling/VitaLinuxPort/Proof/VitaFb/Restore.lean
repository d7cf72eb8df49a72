import VitaLinuxPort.Proof.VitaFb.Capture

/-!
# Restoring a frame

The framebuffer is written to only while the console is not bound to it, and only from a file of its
size. The console is bound again even when that fails, so the script leaves it as it found it unless the
kernel refuses. No file is changed.
-/

namespace VitaLinuxPort

namespace VitaFb

open Program

variable {env : Env} {s t u : World} {input : CString} {rebinds : Prop} {bytes : List UInt8}
  {machine : Bool} {m : Metadata}

/-- The file is there and has the size of the picture. -/
def World.Restorable (s : World) (input : CString) (bytes : List UInt8) : Prop :=
  bytes ∈ s.file input ∧ bytes.length = s.panel.frameBytes

/-- Over the frame of `s` the beginning of a file has been written. -/
def World.overwrite (s : World) (written : List UInt8) (bound : Bool) : World :=
  { s with frame := written ++ s.frame.drop written.length, bound }

/-- What has become of `s` so far: something of the input may have been written. -/
def Restoring (input : CString) (s t : World) : Prop :=
  ∃ written bound, t = s.overwrite written bound ∧
    (written ≠ [] → ∃ bytes, s.Restorable input bytes ∧ written <+: bytes)

structure Restored (input : CString) (rebinds : Prop) (s : World) (status : Nat) (t : World) : Prop where
  whole : status = 0 → ∃ bytes, s.Restorable input bytes ∧ t = s.overwrite bytes s.bound
  bound : rebinds → t.bound = s.bound

def restoreContract (env : Env) (input : CString) (rebinds : Prop) (s : World) :
    Contract Command.Answer World where
  step t event u := World.step env t event u ∧ (rebinds → event ≠ ⟨.bind ['1'], false⟩)
  inv := Restoring input s
  safe request t := ∀ source blocks, request = .show source blocks →
    source = input ∧ t.bound = false ∧ ∃ bytes, t.Restorable source bytes

theorem restore_faithful : Faithful env (restoreContract env input rebinds s) := by
  refine ⟨fun _ _ _ h => h.1, fun request _ hquiet source blocks hrequest => ?_⟩
  subst hrequest
  cases hquiet

theorem overwrite_nil : s.overwrite [] s.bound = s := rfl

theorem restoring_refl : Restoring input s s := ⟨[], s.bound, rfl, fun h => absurd rfl h⟩

theorem restoring_overwrite (h : s.Restorable input bytes) {written : List UInt8}
    (hwritten : written <+: bytes) (bound : Bool) : Restoring input s (s.overwrite written bound) :=
  ⟨written, bound, rfl, fun _ => ⟨bytes, h, hwritten⟩⟩

/-! ### The steps of `restoreFrame` -/

/-- The frame after `dd`, which may have failed or not been called. -/
def Shown (bytes : List UInt8) (s : World) (bound shown : Bool) (u : World) : Prop :=
  ∃ written, u = s.overwrite written bound ∧ written <+: bytes ∧ (shown = true → written = bytes)

theorem keeps_show (hm : m.Describes s) (h : s.Restorable input bytes) (bound unbound : Bool)
    (hstart : t = s.overwrite [] bound) (hunbound : unbound = true → bound = false) :
    (showFrame m input unbound).Keeps (restoreContract env input rebinds s) (Shown bytes s bound) t := by
  subst hstart
  have hinv := restoring_overwrite h (List.nil_prefix) bound
  cases unbound with
  | false => exact keeps_pure hinv ⟨[], rfl, List.nil_prefix, fun hshown => by cases hshown⟩
  | true =>
      refine keeps_ask hinv (fun source blocks hrequest => ?_) fun ok u hstep => ?_
      · cases hrequest
        exact ⟨rfl, hunbound rfl, bytes, h⟩
      · obtain ⟨⟨written, rfl, _, hpart, hall⟩, _⟩ := hstep
        have hfile : ∀ other ∈ s.file input, other = bytes := fun other hother =>
          Option.some.inj (hother.symm.trans h.1)
        have htaken : World.taken m.blocks bytes = bytes := by
          rw [World.taken, hm.blocks, hm.size, ← h.2, List.take_length]
        have hprefix : written <+: bytes := by
          by_cases hnone : written = []
          · rw [hnone]
            exact List.nil_prefix
          · obtain ⟨other, hother, hpart⟩ := hpart hnone
            rwa [hfile other hother, htaken] at hpart
        have hshown : ok = true → written = bytes := by
          intro hok
          obtain ⟨other, hother, hall⟩ := hall hok
          rwa [hfile other hother, htaken] at hall
        have hinv := restoring_overwrite h hprefix bound
        exact keeps_pure hinv ⟨written, rfl, hprefix, hshown⟩

/-- Whether the frame was restored, with the console bound as it was. -/
def FrameRestored (bytes : List UInt8) (rebinds : Prop) (s : World) (ok : Bool) (t : World) : Prop :=
  (ok = true → t = s.overwrite bytes s.bound) ∧ (rebinds → t.bound = s.bound)

theorem keeps_restoreFrame (hm : m.Describes s) (h : s.Restorable input bytes) :
    (restoreFrame m input).Keeps (restoreContract env input rebinds s) (FrameRestored bytes rebinds s)
      s := by
  unfold restoreFrame
  cases hbound : s.bound with
  | false =>
      have hfree : m.bind ≠ ['1'] := by
        rw [hm.bound, World.bindText, hbound]
        decide
      have hstart : s = s.overwrite [] false := by rw [← hbound, overwrite_nil]
      simp only [setBind, if_neg hfree, Program.pure_bind]
      refine ((keeps_show hm h false true hstart fun _ => rfl).mono fun shown u hinv hu => ?_).bind
      obtain ⟨written, rfl, _, hall⟩ := hu
      refine keeps_pure hinv ⟨fun hok => ?_, fun _ => hbound.symm⟩
      rw [hall (Bool.and_eq_true_iff.mp hok).1, hbound]
  | true =>
      have htaken : m.bind = ['1'] := by
        rw [hm.bound, World.bindText, hbound]
        rfl
      simp only [setBind, if_pos htaken]
      refine keeps_ask restoring_refl (fun _ _ hrequest => by cases hrequest) fun unbound t hstep => ?_
      have hstart : t = s.overwrite [] (!unbound) := by
        cases unbound with
        | false =>
            obtain rfl : t = s := hstep.1
            rw [Bool.not_false, ← hbound, overwrite_nil]
        | true => exact hstep.1
      have hunbound : unbound = true → (!unbound) = false := by
        intro hyes
        rw [hyes, Bool.not_true]
      refine ((keeps_show hm h (!unbound) unbound hstart hunbound).mono fun shown u hinv hu => ?_).bind
      obtain ⟨written, rfl, hpart, hall⟩ := hu
      refine keeps_ask hinv (fun _ _ hrequest => by cases hrequest) fun rebound v hstep => ?_
      cases rebound with
      | false =>
          obtain rfl : v = s.overwrite written (!unbound) := hstep.1
          refine keeps_pure hinv ⟨fun hok => ?_, fun hrebinds => absurd rfl (hstep.2 hrebinds)⟩
          exact absurd (Bool.and_eq_true_iff.mp hok).2 Bool.false_ne_true
      | true =>
          obtain rfl : v = s.overwrite written true := hstep.1
          refine keeps_pure (restoring_overwrite h hpart true) ⟨fun hok => ?_, fun _ => hbound.symm⟩
          rw [hall (Bool.and_eq_true_iff.mp hok).1, hbound]

/-! ### The whole restore -/

theorem keeps_without {p : Calls Nat} (honly : p.Only Command.Quiet) (hyields : p.Yields (· ≠ 0))
    (hinv : Restoring input s t) (hbound : rebinds → t.bound = s.bound) :
    p.Keeps (restoreContract env input rebinds s) (Restored input rebinds s) t := by
  have hquiet : p.Keeps (restoreContract env input rebinds s) (fun _ u => u = t) t :=
    restore_faithful.keeps_quiet honly hinv
  refine (hquiet.yields hyields).mono fun status u _ h => ?_
  obtain ⟨rfl, hstatus⟩ := h
  exact ⟨fun hzero => absurd hzero hstatus, hbound⟩

theorem keeps_restore (hm : m.Describes s) :
    (restore machine m input).Keeps (restoreContract env input rebinds s) (Restored input rebinds s)
      s := by
  have hrefused : ∀ message, (fail message).Keeps (restoreContract env input rebinds s)
      (Restored input rebinds s) s := fun message =>
    keeps_without (only_fail message) (yields_fail message) restoring_refl fun _ => rfl
  unfold restore
  refine restore_faithful.keeps_ask_quiet trivial restoring_refl fun readable _ => ?_
  cases readable with
  | false => exact hrefused _
  | true =>
      refine restore_faithful.keeps_ask_quiet trivial restoring_refl fun count hstep => ?_
      split
      · exact hrefused _
      · next hcount =>
          obtain ⟨bytes, hbytes, hlength⟩ := hstep.2 m.frameBytes
            (countText_eq_iff.mp (not_not.mp hcount))
          have h : s.Restorable input bytes := ⟨hbytes, hlength.trans hm.size⟩
          refine ((keeps_restoreFrame hm h).mono fun ok t hinv hok => ?_).bind
          cases ok with
          | false => exact keeps_without (only_fail _) (yields_fail _) hinv hok.2
          | true =>
              have honly := (only_reportFrame machine m "restored".toList "input".toList input).bind
                fun _ => only_report machine "fbcon_bound".toList m.bind
              refine ((restore_faithful.keeps_quiet honly hinv).mono fun _ u _ hu => ?_).bind
              subst hu
              exact keeps_pure hinv ⟨fun _ => ⟨bytes, h, hok.1 rfl⟩, hok.2⟩

/-- Wherever a restore is stopped, nothing but the beginning of a file of the right size has been written
to the framebuffer, and that only while the console was not bound to it. With 0 the script has written the
whole file; at its end the console is bound as it was unless the kernel refused to bind it again. -/
theorem restore_unbound {args : List CString}
    (hargs : parseArgs ⟨none, false⟩ args = .options ⟨some (.restore input), machine⟩)
    {events : Trace} {rest : Calls Nat} (hleads : (vitaFb env args).Leads events rest)
    (run : Run (World.step env) s events t) :
    Restoring input s t ∧
      (∀ source blocks, (vitaFb env args).Asks events (.show source blocks) →
        source = input ∧ t.bound = false ∧ ∃ bytes, t.Restorable source bytes) ∧
      ∀ status, rest = .done status → Restored input (⟨.bind ['1'], false⟩ ∉ events) s status t := by
  let rebinds : Prop := ⟨.bind ['1'], false⟩ ∉ events
  have hkept : (vitaFb env args).Keeps (restoreContract env input rebinds s)
      (Restored input rebinds s) s :=
    restore_faithful.keeps_vitaFb restoring_refl hargs
      (fun reason => keeps_without (only_stop reason) (yields_stop reason) restoring_refl fun _ => rfl)
      fun m hm => keeps_restore hm
  have hrun : Run (restoreContract env input rebinds s).step s events t :=
    run.strengthen fun event hevent hrebinds hbad => hrebinds (hbad ▸ hevent)
  refine ⟨hkept.inv_of_leads hleads hrun, fun source blocks hasks => ?_, fun status hstatus => ?_⟩
  · exact hkept.safe_of_asks hasks hrun source blocks rfl
  · subst hstatus
    exact hkept.post_of_ends hleads hrun

private def savedFile : CString → Option (List UInt8) :=
  fun path => if path = ['o'] then some (.replicate 4096 1) else none

private theorem saved_whole : (plain 0 savedFile).Whole := by
  refine ⟨List.length_replicate, fun path bytes hbytes => ?_⟩
  by_cases hpath : path = ['o']
  · simp only [plain, savedFile, if_pos hpath] at hbytes
    cases hbytes
    exact List.length_replicate
  · simp only [plain, savedFile, if_neg hpath] at hbytes
    cases hbytes

theorem restore_unbound_saved : ∃ (events : Trace) (t : World),
    (vitaFb device ["restore".toList, ['o']]).Ends events 0 ∧
      Run (World.step device) (plain 0 savedFile) events t ∧
      ∃ bytes, (plain 0 savedFile).Restorable ['o'] bytes ∧
        t = (plain 0 savedFile).overwrite bytes true := by
  obtain ⟨events, t, hends, run⟩ := performed device_separate saved_whole ["restore".toList, ['o']] rfl
  have hargs : parseArgs ⟨none, false⟩ ["restore".toList, ['o']] =
      .options ⟨some (.restore ['o']), false⟩ := by decide
  exact ⟨events, t, hends, run, ((restore_unbound hargs hends run).2.2 0 rfl).whole rfl⟩

/-! ### What was captured -/

theorem picture_overwrite (h : bytes.length = s.panel.frameBytes) (bound : Bool) :
    (s.overwrite bytes bound).picture = bytes := by
  simp only [World.picture, World.overwrite, ← h]
  exact List.take_left' rfl

/-- A picture that was captured, and whose file has been kept, is restored as it was. -/
theorem restore_captured {output : CString} {args later : List CString} {verbose : Bool}
    (hcapture : parseArgs ⟨none, false⟩ args = .options ⟨some (.capture output), machine⟩)
    (hrestore : parseArgs ⟨none, false⟩ later = .options ⟨some (.restore output), verbose⟩)
    {first second : Trace} {v : World} (hfirst : (vitaFb env args).Ends first 0)
    (run : Run (World.step env) s first t) (hkept : u.file output = t.file output)
    (hsecond : (vitaFb env later).Ends second 0) (run' : Run (World.step env) u second v) :
    v.picture = s.picture ∧ v = u.overwrite s.picture u.bound := by
  have hcaptured := (capture_atomic hcapture hfirst run).2 0 rfl
  obtain ⟨bytes, ⟨hbytes, hlength⟩, hv⟩ := ((restore_unbound hrestore hsecond run').2.2 0 rfl).whole rfl
  rw [hkept, (hcaptured.publishes.mp rfl).2] at hbytes
  cases hbytes
  rw [hv]
  exact ⟨picture_overwrite hlength u.bound, rfl⟩

private def captureRun : Trace × Nat × World :=
  (vitaFb device ["capture".toList, ['o']]).play (perform device) (plain 0 fun _ => none)

private theorem captureRun_whole : Run (World.step device) (plain 0 fun _ => none) captureRun.1
    captureRun.2.2 ∧ captureRun.2.2.Whole :=
  play_run (fun command _ => step_perform device_separate command) _ (plain_whole 0)

/-- Another picture is shown. -/
private def repainted : World := { captureRun.2.2 with frame := .replicate 4096 1 }

private theorem repainted_whole : repainted.Whole := by
  have hpanel : captureRun.2.2.panel = (plain 0 fun _ => none).panel := rfl
  refine ⟨?_, captureRun_whole.2.file⟩
  simp only [repainted, hpanel, List.length_replicate]
  rfl

theorem restore_captured_repainted : ∃ (events : Trace) (v : World),
    (vitaFb device ["restore".toList, ['o']]).Ends events 0 ∧
      Run (World.step device) repainted events v ∧ v.picture = (plain 0 fun _ => none).picture := by
  obtain ⟨events, v, hends, run⟩ := performed device_separate repainted_whole ["restore".toList, ['o']] rfl
  have hcaptured : (vitaFb device ["capture".toList, ['o']]).Ends captureRun.1 0 := play_ends _ _
  have hcapture : parseArgs ⟨none, false⟩ ["capture".toList, ['o']] =
      .options ⟨some (.capture ['o']), false⟩ := by decide
  have hrestore : parseArgs ⟨none, false⟩ ["restore".toList, ['o']] =
      .options ⟨some (.restore ['o']), false⟩ := by decide
  have hkept : repainted.file ['o'] = captureRun.2.2.file ['o'] := rfl
  exact ⟨events, v, hends, run,
    (restore_captured hcapture hrestore hcaptured captureRun_whole.1 hkept hends run).1⟩

end VitaFb

end VitaLinuxPort
