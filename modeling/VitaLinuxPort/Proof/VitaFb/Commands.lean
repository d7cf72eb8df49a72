import VitaLinuxPort.Lib.ProgramState
import VitaLinuxPort.Proof.VitaFb.Geometry

/-!
# What the parts of `vita-fb` do to the world

Most commands only look: the reports, the checks, and all of `load_metadata`, which comes to metadata that
describe the world it looks at.
-/

namespace VitaLinuxPort

namespace VitaFb

open Program

variable {env : Env} {s t u : World} {k : Contract Command.Answer World}

/-! ### Commands that only look -/

def Command.Quiet : Command → Prop
  | .read _ | .isPresent _ | .isReadable _ | .count _ | .signalled | .print _ | .complain _ => True
  | _ => False

theorem step_quiet {event : Event Command.Answer} (h : World.step env s event t)
    (hquiet : event.request.Quiet) : t = s := by
  obtain ⟨request, answer⟩ := event
  cases request with
  | read _ => exact h.1
  | isPresent _ => exact h.1
  | count _ => exact h.1
  | isReadable _ => exact h
  | signalled => exact h
  | print _ => exact h
  | complain _ => exact h
  | _ => cases hquiet

attribute [local simp] Command.Quiet

theorem only_usageError : usageError.Only Command.Quiet :=
  (only_forM fun _ => by simp).bind fun _ => only_pure _

theorem only_fail (message : CString) : (fail message).Only Command.Quiet := by
  simp [fail]

theorem only_report (machine : Bool) (key value : CString) :
    (report machine key value).Only Command.Quiet := by
  simp [report]

theorem only_reportFrame (machine : Bool) (m : Metadata) (status key path : CString) :
    (reportFrame machine m status key path).Only Command.Quiet :=
  (only_report _ _ _).bind fun _ => (only_report _ _ _).bind fun _ =>
    (only_report _ _ _).bind fun _ => only_report _ _ _

theorem only_stop (reason : Stop) : (stop reason).Only Command.Quiet := by
  cases reason with
  | fail message => exact only_fail message
  | unread => exact only_pure 1
  | arithmetic => simp [stop]

theorem yields_fail (message : CString) : (fail message).Yields (· ≠ 0) := by
  simp [fail]

theorem yields_usageError : usageError.Yields (· ≠ 0) :=
  Yields.bind fun _ => by simp

theorem yields_stop (reason : Stop) : (stop reason).Yields (· ≠ 0) := by
  cases reason with
  | fail message => exact yields_fail message
  | _ => simp [stop]

/-! ### A contract about the world -/

/-- The contract is about the commands as they are, and asks nothing of those that only look. -/
structure Faithful (env : Env) (k : Contract Command.Answer World) : Prop where
  step : ∀ s event t, k.step s event t → World.step env s event t
  quiet : ∀ request s, request.Quiet → k.safe request s

theorem Faithful.keeps_quiet {α : Type} (faithful : Faithful env k) {p : Calls α}
    (honly : p.Only Command.Quiet) (hinv : k.inv s) : p.Keeps k (fun _ t => t = s) s :=
  keeps_of_only honly (fun _ _ hquiet h => step_quiet (faithful.step _ _ _ h) hquiet)
    (fun request => faithful.quiet request s) hinv

theorem Faithful.keeps_ask_quiet {command : Command} {β : Type} {next : command.Answer → Calls β}
    {post : β → World → Prop} (faithful : Faithful env k) (hquiet : command.Quiet) (hinv : k.inv s)
    (hnext : ∀ answer, World.step env s ⟨command, answer⟩ s → (next answer).Keeps k post s) :
    (ask command >>= next).Keeps k post s := by
  refine keeps_ask hinv (faithful.quiet command s hquiet) fun answer t h => ?_
  have hstep := faithful.step _ _ _ h
  have hsame := step_quiet hstep hquiet
  rw [hsame] at hstep ⊢
  exact hnext answer hstep

theorem Faithful.keeps_readValue (faithful : Faithful env k) (path : CString) (hinv : k.inv s) :
    (readValue env path).Keeps k (fun reading t => t = s ∧ ∀ text, reading = .value text →
      text = "UNKNOWN".toList ∨ s.Shows env (rootPath env path) text) s := by
  refine faithful.keeps_ask_quiet trivial hinv fun reading h => ?_
  cases reading with
  | unreadable =>
      refine keeps_pure hinv ⟨rfl, fun text htext => .inl ?_⟩
      cases htext
      rfl
  | failed text =>
      refine keeps_pure hinv ⟨rfl, fun text htext => ?_⟩
      cases htext
  | value text =>
      exact keeps_pure hinv ⟨rfl, fun other hother => .inr (h.2 other hother)⟩

/-- Only a value lets `load_metadata` go on. -/
theorem Faithful.keeps_value {α : Type} (faithful : Faithful env k) {path : CString}
    {next : Reading → Calls α} {post : α → World → Prop} (hinv : k.inv s)
    (hunreadable : (next .unreadable).Keeps k post s)
    (hfailed : ∀ text, (next (.failed text)).Keeps k post s)
    (hvalue : ∀ text, text = "UNKNOWN".toList ∨ s.Shows env (rootPath env path) text →
      (next (.value text)).Keeps k post s) :
    (readValue env path >>= next).Keeps k post s := by
  refine ((faithful.keeps_readValue path hinv).mono fun reading t _ h => ?_).bind
  obtain ⟨rfl, hshows⟩ := h
  cases reading with
  | unreadable => exact hunreadable
  | failed text => exact hfailed text
  | value text => exact hvalue text (hshows text rfl)

theorem Faithful.keeps_loadMetadata (faithful : Faithful env k) (hinv : k.inv s) :
    (loadMetadata env).Keeps k (fun result t => t = s ∧ ∀ m, result = .ok m → m.Describes s) s := by
  have hstopped : (return .error .unread : Calls (Except Stop Metadata)).Keeps k
      (fun result t => t = s ∧ ∀ m, result = .ok m → m.Describes s) s :=
    keeps_pure hinv ⟨rfl, fun m hm => by cases hm⟩
  refine faithful.keeps_value hinv hstopped (fun _ => hstopped) fun geometry hgeometry => ?_
  refine faithful.keeps_value hinv hstopped (fun _ => hstopped) fun bits _ => ?_
  refine faithful.keeps_value hinv hstopped (fun _ => hstopped) fun stride hstride => ?_
  refine faithful.keeps_value hinv hstopped (fun _ => hstopped) fun bind hbind => ?_
  refine keeps_pure hinv ⟨rfl, fun m hm => ?_⟩
  exact describes_of_check hm (hgeometry.imp_right fun h => h.size rfl)
    (hstride.imp_right fun h => h.stride rfl) (hbind.imp_right fun h => h.bind rfl)

/-- With arguments that ask for an action the script loads the metadata, and does it. -/
theorem Faithful.keeps_vitaFb (faithful : Faithful env k) (hinv : k.inv s) {args : List CString}
    {action : Action} {machine : Bool} {post : Nat → World → Prop}
    (hargs : parseArgs ⟨none, false⟩ args = .options ⟨some action, machine⟩)
    (hstopped : ∀ reason, (stop reason).Keeps k post s)
    (hrun : ∀ m : Metadata, m.Describes s → (runAction env machine m action).Keeps k post s) :
    (vitaFb env args).Keeps k post s := by
  unfold vitaFb
  rw [hargs]
  refine ((faithful.keeps_loadMetadata hinv).mono fun result t _ h => ?_).bind
  obtain ⟨rfl, hdescribes⟩ := h
  cases result with
  | error reason => exact hstopped reason
  | ok m => exact hrun m (hdescribes m rfl)

/-! ### A system where nothing fails -/

/-- The kernel's text for a file; any number will do for the bits. -/
def World.kernelText (env : Env) (s : World) (path : CString) : CString :=
  if path = rootPath env virtualSize then
    Nat.toDigits 10 s.panel.width ++ ',' :: Nat.toDigits 10 s.panel.height
  else if path = rootPath env stridePath then Nat.toDigits 10 s.panel.stride
  else if path = rootPath env env.bind then s.bindText
  else ['3', '2']

/-- Every command does what it is for, in a world where all files have the length of the picture. -/
def perform (env : Env) : (command : Command) → World → command.Answer × World
  | .read path, s => (.value (s.kernelText env path), s)
  | .isPresent path, s => ((s.file path).isSome, s)
  | .isReadable path, s => ((s.file path).isSome, s)
  | .count path, s => ((s.file path).map fun _ => s.panel.frameBytes, s)
  | .capture target blocks, s =>
      if 4096 * blocks = s.panel.frameBytes then (true, s.put target (some (World.taken blocks s.frame)))
      else (false, s)
  | .show source blocks, s =>
      match s.file source with
      | some bytes =>
          let written := World.taken blocks bytes
          (true, { s with frame := written ++ s.frame.drop written.length })
      | none => (false, s)
  | .rename source target, s =>
      match s.file source with
      | some bytes => (true, (s.put target (some bytes)).put source none)
      | none => (false, s)
  | .remove path, s => (true, s.put path none)
  | .bind value, s => (true, { s with bound := value = ['1'] })
  | .signalled, s => (false, s)
  | .print _, s | .complain _, s => ((), s)

/-- The files that the script reads are three files. -/
structure Env.Separate (env : Env) : Prop where
  size_stride : rootPath env virtualSize ≠ rootPath env stridePath
  size_bind : rootPath env virtualSize ≠ rootPath env env.bind
  stride_bind : rootPath env stridePath ≠ rootPath env env.bind

structure World.Whole (s : World) : Prop where
  frame : s.frame.length = s.panel.frameBytes
  file : ∀ path, ∀ bytes ∈ s.file path, bytes.length = s.panel.frameBytes

theorem World.Whole.put (hs : s.Whole) {path : CString} {content : Option (List UInt8)}
    (hcontent : ∀ bytes ∈ content, bytes.length = s.panel.frameBytes) : (s.put path content).Whole := by
  refine ⟨hs.frame, fun other bytes hbytes => ?_⟩
  by_cases hother : other = path
  · subst hother
    simp only [World.put, Function.update_self] at hbytes
    exact hcontent bytes hbytes
  · simp only [World.put, Function.update_of_ne hother] at hbytes
    exact hs.file other bytes hbytes

theorem shows_kernelText (henv : env.Separate) (path : CString) :
    s.Shows env path (s.kernelText env path) := by
  refine ⟨fun hpath => ?_, fun hpath => ?_, fun hpath => ?_⟩
  · rw [World.kernelText, if_pos hpath]
  · subst hpath
    rw [World.kernelText, if_neg henv.size_stride.symm, if_pos rfl]
  · subst hpath
    rw [World.kernelText, if_neg henv.size_bind.symm, if_neg henv.stride_bind.symm, if_pos rfl]

theorem step_perform (henv : env.Separate) (command : Command) (hs : s.Whole) :
    World.step env s ⟨command, (perform env command s).1⟩ (perform env command s).2 ∧
      (perform env command s).2.Whole := by
  cases command with
  | read path =>
      refine ⟨⟨rfl, fun text htext => ?_⟩, hs⟩
      obtain rfl := Reading.value.inj htext
      exact shows_kernelText henv path
  | count path =>
      refine ⟨⟨rfl, fun n hn => ?_⟩, hs⟩
      obtain ⟨bytes, hbytes, rfl⟩ := Option.map_eq_some_iff.mp hn
      exact ⟨bytes, hbytes, hs.file path bytes hbytes⟩
  | capture target blocks =>
      by_cases hblocks : 4096 * blocks = s.panel.frameBytes
      · simp only [perform, if_pos hblocks]
        refine ⟨⟨_, rfl, fun _ => rfl⟩, hs.put fun bytes hbytes => ?_⟩
        cases hbytes
        simp [World.taken, hblocks, hs.frame]
      · simp only [perform, if_neg hblocks]
        refine ⟨⟨s.file target, ?_, fun hok => by cases hok⟩, hs⟩
        simp only [World.put, Function.update_eq_self]
  | «show» source blocks =>
      cases hsource : s.file source with
      | none =>
          simp only [perform, hsource]
          exact ⟨⟨[], rfl, by simp, fun h => absurd rfl h, fun hok => by cases hok⟩, hs⟩
      | some bytes =>
          simp only [perform, hsource]
          have hlength := hs.file source bytes hsource
          have hshort : (World.taken blocks bytes).length ≤ s.frame.length := by
            rw [hs.frame, World.taken, List.length_take]
            omega
          refine ⟨⟨_, rfl, hshort, fun _ => ⟨bytes, hsource, List.prefix_refl _⟩,
            fun _ => ⟨bytes, hsource, rfl⟩⟩, ?_, hs.file⟩
          rw [List.length_append, List.length_drop, Nat.add_sub_cancel' hshort]
          exact hs.frame
  | rename source target =>
      cases hsource : s.file source with
      | none =>
          simp only [perform, hsource]
          exact ⟨rfl, hs⟩
      | some bytes =>
          simp only [perform, hsource]
          refine ⟨⟨bytes, hsource, rfl⟩, (hs.put fun other hother => ?_).put fun _ hnone => by cases hnone⟩
          cases hother
          exact hs.file source bytes hsource
  | remove path => exact ⟨.inl rfl, hs.put fun _ hnone => by cases hnone⟩
  | bind value => exact ⟨rfl, hs.frame, hs.file⟩
  | isPresent path => exact ⟨⟨rfl, rfl⟩, hs⟩
  | isReadable path => exact ⟨rfl, hs⟩
  | signalled => exact ⟨rfl, hs⟩
  | print text => exact ⟨rfl, hs⟩
  | complain text => exact ⟨rfl, hs⟩

/-- A run of the script on such a system. -/
theorem performed (henv : env.Separate) (hs : s.Whole) (args : List CString) {status : Nat}
    (hstatus : ((vitaFb env args).play (perform env) s).2.1 = status) :
    ∃ (events : Trace) (t : World), (vitaFb env args).Ends events status ∧
      Run (World.step env) s events t := by
  have hrun := (play_run (fun command _ => step_perform henv command) (vitaFb env args) hs).1
  exact ⟨_, _, hstatus ▸ play_ends _ _, hrun⟩

end VitaFb

end VitaLinuxPort
