import VitaLinuxPort.Proof.VitaFb.Commands

/-!
# Captures

A capture is written to a temporary file, measured and renamed. A trapped signal removes the temporary
file between two commands and the script goes on, but then there is nothing to measure or to rename.
So wherever the script is stopped the output is as it was before, or it is the whole frame.
-/

namespace VitaLinuxPort

namespace VitaFb

open Program

variable {env : Env} {s t u : World} {output : CString}

namespace World

variable {path other : CString} {content later : Option (List UInt8)}

@[simp]
theorem put_file : (s.put path content).file path = content := by
  simp only [put, Function.update_self]

theorem put_file_of_ne (h : other ≠ path) : (s.put path content).file other = s.file other := by
  simp only [put, Function.update_of_ne h]

@[simp]
theorem put_put : (s.put path content).put path later = s.put path later := by
  simp only [put, Function.update_idem]

theorem put_comm (h : path ≠ other) :
    (s.put path content).put other later = (s.put other later).put path content := by
  simp only [put, Function.update_comm h]

theorem put_own : s.put path (s.file path) = s := by
  simp only [put, Function.update_eq_self]

end World

/-- The picture that a complete capture holds. -/
def World.picture (s : World) : List UInt8 := s.frame.take s.panel.frameBytes

/-- What has become of `s` so far: only the temporary file may be another, or the output has got a whole
picture, too, where there was no file. -/
def Capturing (env : Env) (output : CString) (s t : World) : Prop :=
  ∃ content, t = s.put (temporary env output) content ∨
    s.file output = none ∧ s.panel.frameBytes ≤ s.frame.length ∧
      t = (s.put output (some s.picture)).put (temporary env output) content

/-- How a capture ends. The temporary file is gone where it could be removed. -/
structure Captured (env : Env) (output : CString) (removes : Prop) (s : World) (status : Nat)
    (t : World) : Prop where
  publishes : status = 0 ↔ s.file output = none ∧ t.file output = some s.picture
  tidy : removes → t.file (temporary env output) = s.file (temporary env output) ∨
    t.file (temporary env output) = none

theorem output_ne_temporary (env : Env) (output : CString) : output ≠ temporary env output := by
  intro h
  have hlength := congrArg List.length h
  simp [temporary] at hlength

/-! ### The contract -/

variable {removes : Prop} {k : Contract Command.Answer World}

def captureContract (env : Env) (output : CString) (removes : Prop) (s : World) :
    Contract Command.Answer World where
  step t event u := World.step env t event u ∧ (removes → event ≠ ⟨.remove (temporary env output), false⟩)
  inv := Capturing env output s
  safe _ _ := True

theorem capture_faithful : Faithful env (captureContract env output removes s) :=
  ⟨fun _ _ _ h => h.1, fun _ _ _ => trivial⟩

theorem capturing_put (content : Option (List UInt8)) :
    Capturing env output s (s.put (temporary env output) content) := ⟨content, .inl rfl⟩

theorem capturing_refl : Capturing env output s s := by
  have hput := @capturing_put env s output (s.file (temporary env output))
  rwa [World.put_own] at hput

theorem Capturing.put (h : Capturing env output s t) (content : Option (List UInt8)) :
    Capturing env output s (t.put (temporary env output) content) := by
  obtain ⟨old, rfl | ⟨habsent, hwhole, rfl⟩⟩ := h
  · exact ⟨content, .inl World.put_put⟩
  · exact ⟨content, .inr ⟨habsent, hwhole, World.put_put⟩⟩

/-! ### The parts -/

/-- What does not publish anything ends a capture as one that failed. -/
theorem keeps_refused {p : Calls Nat} {content : Option (List UInt8)} (honly : p.Only Command.Quiet)
    (hyields : p.Yields (· ≠ 0))
    (hcontent : removes → content = s.file (temporary env output) ∨ content = none) :
    p.Keeps (captureContract env output removes s) (Captured env output removes s)
      (s.put (temporary env output) content) := by
  have hquiet : p.Keeps (captureContract env output removes s) (fun _ t => t = s.put _ content) _ :=
    capture_faithful.keeps_quiet honly (capturing_put content)
  refine (hquiet.yields hyields).mono fun status t _ h => ?_
  obtain ⟨rfl, hstatus⟩ := h
  constructor
  · rw [World.put_file_of_ne (output_ne_temporary env output)]
    constructor
    · intro hzero
      exact absurd hzero hstatus
    · intro h
      obtain ⟨habsent, hpublished⟩ := h
      rw [habsent] at hpublished
      cases hpublished
  · intro hremoves
    rw [World.put_file]
    exact hcontent hremoves

theorem keeps_cleanUp (h : Capturing env output s t) :
    (cleanUp (temporary env output)).Keeps (captureContract env output removes s)
      (fun _ u => u = t.put (temporary env output) none ∨ ¬ removes ∧ u = t) t := by
  refine keeps_ask h trivial fun ok u hstep => ?_
  obtain ⟨hremoved | ⟨rfl, rfl⟩, hremoves⟩ := hstep
  · subst hremoved
    exact keeps_pure (h.put none) (.inl rfl)
  · exact keeps_pure h (.inr ⟨fun hr => hremoves hr rfl, rfl⟩)

theorem keeps_failTrapped (message : CString) (content : Option (List UInt8)) :
    (failTrapped (temporary env output) message).Keeps (captureContract env output removes s)
      (Captured env output removes s) (s.put (temporary env output) content) := by
  refine capture_faithful.keeps_ask_quiet trivial (capturing_put content) fun _ _ => ?_
  refine ((keeps_cleanUp (capturing_put content)).mono fun _ t _ h => ?_).bind
  rcases h with rfl | ⟨hremoves, rfl⟩
  · rw [World.put_put]
    exact keeps_refused (only_pure 1) (by simp) fun _ => .inr rfl
  · exact keeps_refused (only_pure 1) (by simp) fun hr => absurd hr hremoves

/-- A command under the trap. What holds after it must not depend on the temporary file. -/
theorem keeps_trapped {command : Command} {post : command.Answer → World → Prop}
    (h : Capturing env output s t)
    (hdone : ∀ answer u, World.step env t ⟨command, answer⟩ u →
      Capturing env output s u ∧ post answer u)
    (hcleaned : ∀ answer u, post answer u → post answer (u.put (temporary env output) none)) :
    (trapped (temporary env output) command).Keeps (captureContract env output removes s) post t := by
  have hcommand : (ask command).Keeps (captureContract env output removes s) post t := by
    refine ⟨h, trivial, fun answer u hstep => ?_⟩
    exact hdone answer u hstep.1
  refine hcommand.interruptible (fun u hu => ?_) fun answer u hu hpost => ?_
  · exact capture_faithful.keeps_quiet (only_ask.mpr trivial) hu
  · refine (keeps_cleanUp hu).mono fun _ v _ hremoved => ?_
    rcases hremoved with rfl | ⟨_, rfl⟩
    · exact hcleaned answer u hpost
    · exact hpost

/-! ### The capture -/

variable {machine : Bool} {m : Metadata}

/-- The output is published, and the temporary file is gone. -/
theorem keeps_published (habsent : s.file output = none) (hwhole : s.panel.frameBytes ≤ s.frame.length) :
    (do
      reportFrame machine m "captured".toList "output".toList output
      return 0 : Calls Nat).Keeps (captureContract env output removes s)
        (Captured env output removes s)
        ((s.put output (some s.picture)).put (temporary env output) none) := by
  have hinv : Capturing env output s
      ((s.put output (some s.picture)).put (temporary env output) none) :=
    ⟨none, .inr ⟨habsent, hwhole, rfl⟩⟩
  have honly := only_reportFrame machine m "captured".toList "output".toList output
  refine ((capture_faithful.keeps_quiet honly hinv).mono fun _ t _ h => ?_).bind
  subst h
  refine keeps_pure hinv ⟨?_, fun _ => .inr World.put_file⟩
  rw [World.put_file_of_ne (output_ne_temporary env output), World.put_file]
  simp [habsent]

/-- The temporary file after `dd`. -/
def Written (env : Env) (output : CString) (m : Metadata) (s : World) (ok : Bool) (u : World) : Prop :=
  ∃ content, u = s.put (temporary env output) content ∧
    (ok = true → content = none ∨ content = some (World.taken m.blocks s.frame))

theorem keeps_write :
    (trapped (temporary env output) (.capture (temporary env output) m.blocks)).Keeps
      (captureContract env output removes s) (Written env output m s) s := by
  refine keeps_trapped capturing_refl (fun ok u hstep => ?_) fun ok u h => ?_
  · obtain ⟨content, rfl, hcontent⟩ := hstep
    exact ⟨capturing_put content, content, rfl, fun hok => .inr (hcontent hok)⟩
  · obtain ⟨content, rfl, _⟩ := h
    exact ⟨none, World.put_put, fun _ => .inl rfl⟩

/-- The temporary file after it was measured: if it has the right length and is still there, it is the
picture. -/
def Measured (env : Env) (output : CString) (m : Metadata) (s : World) (count : Option Nat)
    (u : World) : Prop :=
  ∃ content, u = s.put (temporary env output) content ∧ (count = some m.frameBytes →
    ∀ bytes ∈ content, s.panel.frameBytes ≤ s.frame.length ∧ bytes = s.picture)

theorem keeps_measure (hm : m.Describes s) {content : Option (List UInt8)}
    (hcontent : content = none ∨ content = some (World.taken m.blocks s.frame)) :
    (trapped (temporary env output) (.count (temporary env output))).Keeps
      (captureContract env output removes s) (Measured env output m s)
      (s.put (temporary env output) content) := by
  refine keeps_trapped (capturing_put content) (fun count u hstep => ?_) fun count u h => ?_
  · obtain ⟨rfl, hcount⟩ := hstep
    refine ⟨capturing_put content, content, rfl, fun hwhole bytes hbytes => ?_⟩
    have htaken := hcontent.resolve_left (Option.ne_none_iff_exists'.mpr ⟨bytes, hbytes⟩)
    obtain ⟨measured, hmeasured, hlength⟩ := hcount m.frameBytes hwhole
    rw [World.put_file, htaken] at hmeasured
    rw [htaken] at hbytes
    cases hmeasured
    cases hbytes
    rw [World.taken, hm.blocks, hm.size, List.length_take] at hlength
    exact ⟨by omega, by rw [World.taken, hm.blocks, hm.size, World.picture]⟩
  · obtain ⟨content, rfl, _⟩ := h
    exact ⟨none, World.put_put, fun _ bytes hbytes => by cases hbytes⟩

/-- The files after the `mv`. -/
def Renamed (env : Env) (output : CString) (s : World) (ok : Bool) (u : World) : Prop :=
  if ok then s.panel.frameBytes ≤ s.frame.length ∧
    u = (s.put output (some s.picture)).put (temporary env output) none
  else ∃ content, u = s.put (temporary env output) content

theorem keeps_rename (habsent : s.file output = none) {content : Option (List UInt8)}
    (hwhole : ∀ bytes ∈ content, s.panel.frameBytes ≤ s.frame.length ∧ bytes = s.picture) :
    (trapped (temporary env output) (.rename (temporary env output) output)).Keeps
      (captureContract env output removes s) (Renamed env output s)
      (s.put (temporary env output) content) := by
  refine keeps_trapped (capturing_put content) (fun ok u hstep => ?_) fun ok u h => ?_
  · cases ok with
    | false =>
        obtain rfl : u = s.put (temporary env output) content := hstep
        exact ⟨capturing_put content, content, rfl⟩
    | true =>
        obtain ⟨bytes, hbytes, rfl⟩ := hstep
        rw [World.put_file] at hbytes
        obtain ⟨hlong, rfl⟩ := hwhole bytes hbytes
        rw [World.put_comm (output_ne_temporary env output).symm, World.put_put]
        exact ⟨⟨none, .inr ⟨habsent, hlong, rfl⟩⟩, hlong, rfl⟩
  · cases ok with
    | false =>
        obtain ⟨content, rfl⟩ := h
        exact ⟨none, World.put_put⟩
    | true =>
        obtain ⟨hlong, rfl⟩ := h
        exact ⟨hlong, World.put_put⟩

theorem keeps_publish (hm : m.Describes s) (habsent : s.file output = none)
    {content : Option (List UInt8)}
    (hcontent : content = none ∨ content = some (World.taken m.blocks s.frame)) :
    (publish env machine m output).Keeps (captureContract env output removes s)
      (Captured env output removes s) (s.put (temporary env output) content) := by
  refine ((keeps_measure hm hcontent).mono fun count u _ h => ?_).bind
  obtain ⟨content, rfl, hwhole⟩ := h
  split
  · exact keeps_failTrapped _ content
  · next hcount =>
      have hcount := countText_eq_iff.mp (not_not.mp hcount)
      refine ((keeps_rename habsent (hwhole hcount)).mono fun ok v _ h => ?_).bind
      cases ok with
      | false =>
          obtain ⟨content, rfl⟩ := h
          exact keeps_failTrapped _ content
      | true =>
          obtain ⟨hlong, rfl⟩ := h
          exact keeps_published habsent hlong

/-- A program that only looks refuses the capture. -/
theorem keeps_unchanged {p : Calls Nat} (honly : p.Only Command.Quiet) (hyields : p.Yields (· ≠ 0)) :
    p.Keeps (captureContract env output removes s) (Captured env output removes s) s := by
  have hkept := @keeps_refused env s output removes p (s.file (temporary env output)) honly hyields
    fun _ => .inl rfl
  rwa [World.put_own] at hkept

theorem keeps_capture (hm : m.Describes s) :
    (capture env machine m output).Keeps (captureContract env output removes s)
      (Captured env output removes s) s := by
  unfold capture
  split
  · exact keeps_unchanged only_usageError yields_usageError
  · refine capture_faithful.keeps_ask_quiet trivial capturing_refl fun present hpresent => ?_
    cases present with
    | true => exact keeps_unchanged (only_fail _) (yields_fail _)
    | false =>
        have habsent : s.file output = none := by simpa using hpresent.2
        refine (keeps_write.mono fun ok u _ h => ?_).bind
        obtain ⟨content, rfl, hcontent⟩ := h
        cases ok with
        | false => exact keeps_failTrapped _ content
        | true => exact keeps_publish hm habsent (hcontent rfl)

/-- Wherever a capture is stopped, and whatever it was sent meanwhile, the output is what it was, or there
was none and it is the whole picture. When the script ends, that is so if and only if it ends with 0. -/
theorem capture_atomic {args : List CString}
    (hargs : parseArgs ⟨none, false⟩ args = .options ⟨some (.capture output), machine⟩)
    {events : Trace} {rest : Calls Nat} (hleads : (vitaFb env args).Leads events rest)
    (run : Run (World.step env) s events t) :
    Capturing env output s t ∧ ∀ status, rest = .done status →
      Captured env output (⟨.remove (temporary env output), false⟩ ∉ events) s status t := by
  let removes : Prop := ⟨.remove (temporary env output), false⟩ ∉ events
  have hkept : (vitaFb env args).Keeps (captureContract env output removes s)
      (Captured env output removes s) s :=
    capture_faithful.keeps_vitaFb capturing_refl hargs
      (fun reason => keeps_unchanged (only_stop reason) (yields_stop reason))
      fun m hm => keeps_capture hm
  have hrun : Run (captureContract env output removes s).step s events t :=
    run.strengthen fun event hevent hremoves hbad => hremoves (hbad ▸ hevent)
  refine ⟨hkept.inv_of_leads hleads hrun, fun status hstatus => ?_⟩
  subst hstatus
  exact hkept.post_of_ends hleads hrun

def device : Env := defaults ['7']

/-- A small picture, all of one value. -/
def plain (byte : UInt8) (file : CString → Option (List UInt8)) : World where
  file
  panel := ⟨1024, 1, 4096, by decide, by decide⟩
  frame := .replicate 4096 byte
  bound := true

theorem device_separate : device.Separate := ⟨by decide, by decide, by decide⟩

theorem plain_whole (byte : UInt8) : (plain byte fun _ => none).Whole :=
  ⟨List.length_replicate, fun _ _ hnone => by cases hnone⟩

theorem capture_atomic_plain : ∃ (events : Trace) (t : World),
    (vitaFb device ["capture".toList, ['o']]).Ends events 0 ∧
      Run (World.step device) (plain 0 fun _ => none) events t ∧
      t.file ['o'] = some (plain 0 fun _ => none).picture := by
  obtain ⟨events, t, hends, run⟩ := performed device_separate (plain_whole 0)
    ["capture".toList, ['o']] rfl
  have hargs : parseArgs ⟨none, false⟩ ["capture".toList, ['o']] =
      .options ⟨some (.capture ['o']), false⟩ := by decide
  exact ⟨events, t, hends, run, (((capture_atomic hargs hends run).2 0 rfl).publishes.mp rfl).2⟩

end VitaFb

end VitaLinuxPort
