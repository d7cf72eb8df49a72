import VitaLinuxPort.Proof.VitaControl.Interleaving
import VitaLinuxPort.Proof.VitaControl.Invocation
import VitaLinuxPort.Toolkit.VitaControl.Processes

/-!
# Concurrent invocations of the whole program

Processes that run `main` call by call behave as the invocations of `ControlSystem` do. What a process
does before it has read the clock and after its last word on the state file is nothing there; the
three calls that replace the timestamp are one step there, which is taken at the last of them, and
until then the file stands empty, with its lock held.
-/

namespace VitaLinuxPort

namespace VitaControl

open Program

/-- The end of `next`, with what is left of `update_rate_state`. -/
def afterRate (machine : Bool) (pid : Nat) (update : Calls Bool) : Calls Nat := do
  if ← update then signalTarget machine pid else return 1

section Parts

variable (machine : Bool) (intervalMs nowNs : UInt64)

/-- What is left of `update_rate_state` once it knows how long the last grant leaves it to wait. -/
def decidedPart (retry : Option UInt64) : Calls Bool :=
  match retry with
  | some retry => do
      report machine "status" "rate_limited"
      report machine "retry_after_ms" (String.ofList (decimal retry))
      unlockReturning false
  | none => storeNow machine nowNs

/-- What is left once the lock is held. -/
def readPart : Calls Bool := do
  let previous ← ask (.read (pidBuffer - 1))
  decidedPart machine nowNs (tooRecent intervalMs nowNs (previous.map Subtype.val))

/-- What is left once the file is open. -/
def lockPart : Calls Bool := do
  if ← ask .lock then readPart machine intervalMs nowNs
  else
    ask .close
    report machine "status" "rate_state_unavailable"
    return false

def storeFailed : Calls Bool := do
  report machine "status" "rate_state_write_failed"
  unlockReturning false

def writePart : Calls Bool := do
  if (← ask (.write (decimal nowNs))) ≠ some (decimal nowNs).length then storeFailed machine
  else unlockReturning true

/-- What is left once the file is truncated. -/
def seekPart : Calls Bool := do
  if !(← ask .seek) then storeFailed machine
  else writePart machine nowNs

def truncatePart : Calls Bool := do
  if !(← ask .truncate) then storeFailed machine
  else seekPart machine nowNs

theorem storeNow_eq : storeNow machine nowNs = truncatePart machine nowNs := by
  have hfits : ¬ pidBuffer ≤ (decimal nowNs).length := by
    have := length_decimal_lt nowNs
    omega
  simp only [storeNow, if_neg hfits]
  rfl

end Parts

/-- A program that looks for its target and then, if at all, goes on to the state file. -/
inductive Approaches (statePath : CString) (intervalMs : UInt64) : Calls Nat → Prop
  | inspect {program : Calls Nat} (h : program.Only Inspects) : Approaches statePath intervalMs program
  | step {request : SystemCall} {rest : request.Answer → Calls Nat} (h : Inspects request)
      (hrest : ∀ answer, Approaches statePath intervalMs (rest answer)) :
      Approaches statePath intervalMs (.call request rest)
  | clock {rest : Option UInt64 → Calls Nat} {machine : Bool} {pid : Nat}
      (hfailed : (rest none).Only Inspects)
      (hread : ∀ nowNs, rest (some nowNs) =
        afterRate machine pid (updateRateState statePath intervalMs nowNs machine)) :
      Approaches statePath intervalMs (.call .clock rest)

/-- What is left of a call that reports and then unlocks. -/
inductive Unlocks (granted : Bool) : Calls Bool → Prop
  | unlock : Unlocks granted (unlockReturning granted)
  | print {text : String} {rest : Unit → Calls Bool} (h : Unlocks granted (rest ())) :
      Unlocks granted (.call (.print text) rest)

theorem Unlocks.report {granted machine : Bool} {key value : String} {part : Calls Bool}
    (h : Unlocks granted part) : Unlocks granted (do report machine key value; part) :=
  .print h

namespace Processes

/-- A process with this program, open file and clock reading is where an invocation of
`ControlSystem` is at this point. -/
def At (statePath : CString) (intervalMs : UInt64) (program : Calls Nat) (opened : Option CString)
    (reading : Option UInt64) : ControlPoint → Prop
  | .clock => Approaches statePath intervalMs program
  | .opening ms nowNs =>
      ms = intervalMs ∧ reading = some nowNs ∧ ∃ machine pid,
        program = afterRate machine pid (updateRateState statePath intervalMs nowNs machine)
  | .locking ms nowNs =>
      ms = intervalMs ∧ reading = some nowNs ∧ opened = some statePath ∧ ∃ machine pid,
        program = afterRate machine pid (lockPart machine intervalMs nowNs)
  | .reading ms nowNs =>
      ms = intervalMs ∧ reading = some nowNs ∧ opened = some statePath ∧ ∃ machine pid,
        program = afterRate machine pid (readPart machine intervalMs nowNs)
  | .storing nowNs =>
      reading = some nowNs ∧ opened = some statePath ∧ ∃ machine pid, ∃ part ∈
        [truncatePart machine nowNs, seekPart machine nowNs, writePart machine nowNs],
          program = afterRate machine pid part
  | .unlocking granted =>
      opened = some statePath ∧ ∃ machine pid part, Unlocks granted part ∧
        program = afterRate machine pid part
  | .signalling => ∃ machine pid, program = signalTarget machine pid ∨
      program = afterRate machine pid (do ask .close; return true)
  | .exited _ => program.Only Inspects

/-- The process has emptied the file and not written it yet. -/
def Emptied (program : Calls Nat) : Prop :=
  ∃ machine pid nowNs, ∃ part ∈ [seekPart machine nowNs, writePart machine nowNs],
    program = afterRate machine pid part

variable {ι : Type*} {statePath : CString} {intervalMs : UInt64}

def EmptiedBy (s : Processes ι) (t : ControlSystem ι) (p : ι) : Prop :=
  ∃ nowNs, t.point p = .storing nowNs ∧ Emptied (s.program p)

/-- The processes are where the invocations of `ControlSystem` are, with the same lock, clock, grants
and signals, and with the same state file unless it is being replaced. -/
structure Simulates (statePath : CString) (intervalMs : UInt64) (s : Processes ι)
    (t : ControlSystem ι) : Prop where
  clockNs : s.clockNs = t.clockNs
  holder : s.holder statePath = t.holder
  granted : s.granted = t.granted
  signalled : s.signalled = t.signalled
  locked : LockedBy ControlPoint.Locked t.point t.holder
  position : ∀ p, At statePath intervalMs (s.program p) (s.opened p) (s.reading p) (t.point p)
  file : (s.files statePath = t.file ∧ ∀ p, ¬ EmptiedBy s t p) ∨
    s.files statePath = some [] ∧ ∃ p, EmptiedBy s t p

variable [DecidableEq ι] {config : ControlConfig} {s u : Processes ι} {t : ControlSystem ι} {p : ι}

def lastGranted (s : Processes ι) : Option UInt64 := s.granted.getLast?.map Prod.snd

/-- The process overlooks the last grant: it reads the file with a clock reading from before that
grant, or cannot read it, or has emptied it and then fails to write it. -/
def Overlooks (s : Processes ι) (event : ι × Program.Event SystemCall.Answer) : Prop :=
  ∃ last ∈ s.lastGranted, match event.2 with
    | ⟨.read _, none⟩ => s.opened event.1 ≠ none
    | ⟨.read _, some _⟩ => s.opened event.1 ≠ none ∧ ∃ nowNs ∈ s.reading event.1, nowNs < last
    | ⟨.seek, sought⟩ => sought = false
    | ⟨.write text, count⟩ => count ≠ some text.length
    | _ => False

/-- The step to `s'` is a step of `ControlSystem`, or none, and overlooks no less. -/
def Matched (statePath : CString) (intervalMs : UInt64) (config : ControlConfig) (s s' : Processes ι)
    (t : ControlSystem ι) (p : ι) (event : Program.Event SystemCall.Answer) : Prop :=
  ∃ t', Simulates statePath intervalMs s' t' ∧
    (t' = t ∨ ∃ answer, t.next config p answer = some t' ∧
      (ControlSystem.Overlooks t (p, answer) → Overlooks s (p, event)))

/-- A step of `p`, with what has to be seen of it. -/
theorem Simulates.advance {t' : ControlSystem ι} {program : Calls Nat} {next : ControlPoint}
    (sim : Simulates statePath intervalMs s t)
    (hothers : ∀ q, q ≠ p → u.opened q = s.opened q ∧ u.reading q = s.reading q)
    (hpoint : t'.point = Function.update t.point p next)
    (hat : At statePath intervalMs program (u.opened p) (u.reading p) next)
    (hlocked : LockedBy ControlPoint.Locked t'.point t'.holder)
    (hclock : u.clockNs = t'.clockNs) (hholder : u.holder statePath = t'.holder)
    (hgranted : u.granted = t'.granted) (hsignalled : u.signalled = t'.signalled)
    (hfile : (u.files statePath = t'.file ∧ ¬ (∃ nowNs, next = .storing nowNs ∧ Emptied program) ∧
        ∀ q, q ≠ p → ¬ EmptiedBy s t q) ∨
      u.files statePath = some [] ∧ ((∃ nowNs, next = .storing nowNs ∧ Emptied program) ∨
        ∃ q, q ≠ p ∧ EmptiedBy s t q)) :
    Simulates statePath intervalMs { u with program := Function.update s.program p program } t' where
  clockNs := hclock
  holder := hholder
  granted := hgranted
  signalled := hsignalled
  locked := hlocked
  position := by
    intro q
    rw [hpoint]
    by_cases hq : q = p
    · subst hq
      simpa using hat
    · obtain ⟨hopened, hreading⟩ := hothers q hq
      have hplace := sim.position q
      simpa [hq, hopened, hreading] using hplace
  file := by
    rcases hfile with ⟨hfile, hp, hrest⟩ | ⟨hempty, hp | ⟨q, hq, hrest⟩⟩
    · refine .inl ⟨hfile, fun q => ?_⟩
      by_cases hq : q = p
      · subst hq
        simpa [EmptiedBy, hpoint] using hp
      · simpa [EmptiedBy, hpoint, hq] using hrest q hq
    · exact .inr ⟨hempty, p, by simpa [EmptiedBy, hpoint] using hp⟩
    · exact .inr ⟨hempty, q, by simpa [EmptiedBy, hpoint, hq] using hrest⟩

theorem locked_next {t' : ControlSystem ι} {answer : ControlAnswer}
    (hlocked : LockedBy ControlPoint.Locked t.point t.holder)
    (h : t.next config p answer = some t') : LockedBy ControlPoint.Locked t'.point t'.holder := by
  rcases ControlSystem.next_cases h with ⟨next, hadv⟩ | ⟨nowNs, hgrant⟩
  · exact hadv.lock hlocked
  · rw [hgrant.point, hgrant.holder]
    exact hlocked.move (by rw [hgrant.before]; exact Iff.rfl)

theorem not_emptied {request : SystemCall} {rest : request.Answer → Calls Nat}
    (hseek : request ≠ .seek) (hwrite : ∀ text, request ≠ .write text) :
    ¬ Emptied (.call request rest) := by
  intro h
  obtain ⟨machine, pid, nowNs, part, hpart, heq⟩ := h
  rw [List.mem_pair] at hpart
  rcases hpart with rfl | rfl
  · cases heq
    exact hseek rfl
  · cases heq
    exact hwrite _ rfl

theorem not_emptied_truncatePart {machine : Bool} {pid : Nat} {nowNs : UInt64} :
    ¬ Emptied (afterRate machine pid (truncatePart machine nowNs)) :=
  not_emptied nofun nofun

omit [DecidableEq ι] in
/-- What is known of the file at a step of a process that has not emptied it. -/
theorem Simulates.file_cases (sim : Simulates statePath intervalMs s t)
    (hp : ¬ Emptied (s.program p)) :
    (s.files statePath = t.file ∧ ∀ q, q ≠ p → ¬ EmptiedBy s t q) ∨
      s.files statePath = some [] ∧ ∃ q, q ≠ p ∧ EmptiedBy s t q := by
  rcases sim.file with ⟨hfile, hnone⟩ | ⟨hempty, q, hq⟩
  · exact .inl ⟨hfile, fun q _ => hnone q⟩
  · refine .inr ⟨hempty, q, ?_, hq⟩
    intro heq
    subst heq
    exact hp hq.choose_spec.2

omit [DecidableEq ι] in
/-- Nobody but the holder of the lock has the file empty. -/
theorem Simulates.not_emptiedBy (sim : Simulates statePath intervalMs s t)
    (hlocked : (t.point p).Locked) (q : ι) (hq : q ≠ p) : ¬ EmptiedBy s t q := by
  intro h
  obtain ⟨nowNs, hstoring, _⟩ := h
  refine absurd (sim.locked.exclusive ?_ hlocked) hq
  rw [hstoring]
  trivial

omit [DecidableEq ι] in
theorem Simulates.file_of_emptied (sim : Simulates statePath intervalMs s t)
    (h : EmptiedBy s t p) : s.files statePath = some [] := by
  rcases sim.file with ⟨_, hnone⟩ | ⟨hempty, _⟩
  · exact absurd h (hnone p)
  · exact hempty

omit [DecidableEq ι] in
/-- Whoever holds the lock sees the file as it is in `ControlSystem`, unless it has emptied it. -/
theorem Simulates.file_eq (sim : Simulates statePath intervalMs s t)
    (hlocked : (t.point p).Locked) (hp : ¬ Emptied (s.program p)) : s.files statePath = t.file := by
  rcases sim.file_cases hp with hfile | ⟨_, q, hq, hemptied⟩
  · exact hfile.1
  · exact absurd hemptied (sim.not_emptiedBy hlocked q hq)

omit [DecidableEq ι] in
theorem Simulates.holder_ne (sim : Simulates statePath intervalMs s t)
    (hout : ¬ (t.point p).Locked) : s.holder statePath ≠ some p := by
  rw [sim.holder]
  exact fun h => hout ((sim.locked p).mpr h)

theorem serve_inspects {request : SystemCall} {answer : request.Answer} (h : Inspects request)
    (hserve : s.serve p request answer = some u) :
    u = s ∨ u = { s with holder := s.release p, opened := Function.update s.opened p none } := by
  revert h hserve
  fun_cases serve s p request answer <;> intro h hserve
  case case6 => exact .inr (Option.some.inj hserve).symm
  all_goals
    first
    | exact h.elim
    | exact .inl (Option.some.inj hserve).symm
    | cases hserve

/-- A call that only looks or reports is nothing in `ControlSystem`. -/
theorem Simulates.inspect {request : SystemCall} {rest : request.Answer → Calls Nat}
    {answer : request.Answer} (sim : Simulates statePath intervalMs s t)
    (hprogram : s.program p = .call request rest) (h : Inspects request)
    (hserve : s.serve p request answer = some u) (hout : ¬ (t.point p).Locked)
    (hat : At statePath intervalMs (rest answer) (u.opened p) (u.reading p) (t.point p)) :
    Simulates statePath intervalMs { u with program := Function.update s.program p (rest answer) } t := by
  have hemptied : ¬ Emptied (s.program p) := by
    rw [hprogram]
    apply not_emptied
    · rintro rfl
      exact h
    · rintro text rfl
      exact h
  have hholder := sim.holder_ne hout
  have hp : ¬ ∃ nowNs, t.point p = .storing nowNs ∧ Emptied (rest answer) := by
    intro h
    obtain ⟨nowNs, hstoring, _⟩ := h
    exact hout (by rw [hstoring]; trivial)
  have hfile : (s.files statePath = t.file ∧
        ¬ (∃ nowNs, t.point p = .storing nowNs ∧ Emptied (rest answer)) ∧
          ∀ q, q ≠ p → ¬ EmptiedBy s t q) ∨
      s.files statePath = some [] ∧ ((∃ nowNs, t.point p = .storing nowNs ∧ Emptied (rest answer)) ∨
        ∃ q, q ≠ p ∧ EmptiedBy s t q) :=
    (sim.file_cases hemptied).imp (fun hsame => ⟨hsame.1, hp, hsame.2⟩)
      fun hothers => ⟨hothers.1, .inr hothers.2⟩
  have hkeep : t.point = Function.update t.point p (t.point p) := (Function.update_eq_self _ _).symm
  rcases serve_inspects h hserve with rfl | rfl
  · exact sim.advance (fun _ _ => ⟨rfl, rfl⟩) hkeep hat sim.locked sim.clockNs sim.holder sim.granted
      sim.signalled hfile
  · refine sim.advance (fun q hq => ⟨by simp [hq], rfl⟩) hkeep hat sim.locked sim.clockNs ?_ sim.granted
      sim.signalled hfile
    rw [← sim.holder]
    simp [release, hholder]

/-- A call that is a step of `ControlSystem`. -/
theorem Simulates.matched {t' : ControlSystem ι} {program : Calls Nat} {next : ControlPoint}
    {answer : ControlAnswer} {event : Program.Event SystemCall.Answer}
    (sim : Simulates statePath intervalMs s t) (hnext : t.next config p answer = some t')
    (hpoint : t'.point = Function.update t.point p next)
    (hothers : ∀ q, q ≠ p → u.opened q = s.opened q ∧ u.reading q = s.reading q)
    (hat : At statePath intervalMs program (u.opened p) (u.reading p) next)
    (hclock : u.clockNs = t'.clockNs) (hholder : u.holder statePath = t'.holder)
    (hgranted : u.granted = t'.granted) (hsignalled : u.signalled = t'.signalled)
    (hfile : (u.files statePath = t'.file ∧ ∀ q, q ≠ p → ¬ EmptiedBy s t q) ∨
      u.files statePath = some [] ∧ ∃ q, q ≠ p ∧ EmptiedBy s t q)
    (hemptied : (∃ nowNs, next = .storing nowNs) → ¬ Emptied program)
    (hseen : ControlSystem.Overlooks t (p, answer) → Overlooks s (p, event)) :
    Matched statePath intervalMs config s
      { u with program := Function.update s.program p program } t p event :=
  ⟨t', sim.advance hothers hpoint hat (locked_next sim.locked hnext) hclock hholder hgranted hsignalled
    (hfile.imp (fun hsame => ⟨hsame.1, fun ⟨nowNs, hstoring, h⟩ => hemptied ⟨nowNs, hstoring⟩ h, hsame.2⟩)
      fun hothers => ⟨hothers.1, .inr hothers.2⟩),
    .inr ⟨answer, hnext, hseen⟩⟩

omit [DecidableEq ι] in
/-- Only reading and storing overlook anything. -/
theorem not_overlooks {answer : ControlAnswer} (hreading : ∀ ms nowNs, t.point p ≠ .reading ms nowNs)
    (hstoring : ∀ nowNs, t.point p ≠ .storing nowNs) : ¬ ControlSystem.Overlooks t (p, answer) := by
  intro h
  obtain ⟨last, _, h⟩ := h
  split at h
  · exact hreading _ _ ‹_›
  · exact hstoring _ ‹_›
  · exact h

section Steps

variable {request : SystemCall} {rest : request.Answer → Calls Nat} {answer : request.Answer}
  {ms nowNs : UInt64}

theorem step_opening (sim : Simulates statePath intervalMs s t)
    (hpoint : t.point p = .opening ms nowNs) (hprogram : s.program p = .call request rest)
    (hserve : s.serve p request answer = some u) :
    Matched statePath intervalMs config s
      { u with program := Function.update s.program p (rest answer) } t p ⟨request, answer⟩ := by
  have hposition := sim.position p
  rw [hpoint] at hposition
  obtain ⟨rfl, hreading, machine, pid, hpart⟩ := hposition
  have hemptied : ¬ Emptied (s.program p) := by
    rw [hpart]
    exact not_emptied nofun nofun
  have hnot : ∀ answer, ¬ ControlSystem.Overlooks t (p, answer) := fun _ =>
    not_overlooks (by simp [hpoint]) (by simp [hpoint])
  cases hprogram.symm.trans hpart
  cases answer with
  | false =>
      cases hserve
      have hnext : t.next config p (.opened false) =
          some (t.move p (.exited 1) [("status", "rate_state_unavailable")]) := by
        simp only [ControlSystem.next, hpoint]
        rfl
      refine sim.matched hnext rfl (fun _ _ => ⟨rfl, rfl⟩) ?_ sim.clockNs sim.holder sim.granted
        sim.signalled (sim.file_cases hemptied) (by simp) fun h => absurd h (hnot _)
      exact ⟨trivial, fun _ => trivial⟩
  | true =>
      cases hserve
      have hnext : t.next config p (.opened true) = some { t.move p (.locking ms nowNs) [] with
          file := some (t.file.getD []) } := by
        simp only [ControlSystem.next, hpoint]
        rfl
      refine sim.matched hnext rfl (fun q hq => ⟨by simp [hq], rfl⟩) ?_ sim.clockNs sim.holder sim.granted
        sim.signalled ?_ (by simp) fun h => absurd h (hnot _)
      · exact ⟨rfl, hreading, by simp, machine, pid, rfl⟩
      · rcases sim.file_cases hemptied with ⟨hfile, hothers⟩ | ⟨hempty, hothers⟩
        · exact .inl ⟨by simp [hfile], hothers⟩
        · exact .inr ⟨by simp [hempty], hothers⟩

theorem step_locking (sim : Simulates statePath intervalMs s t)
    (hpoint : t.point p = .locking ms nowNs) (hprogram : s.program p = .call request rest)
    (hserve : s.serve p request answer = some u) :
    Matched statePath intervalMs config s
      { u with program := Function.update s.program p (rest answer) } t p ⟨request, answer⟩ := by
  have hposition := sim.position p
  rw [hpoint] at hposition
  obtain ⟨rfl, hreading, hopened, machine, pid, hpart⟩ := hposition
  have hemptied : ¬ Emptied (s.program p) := by
    rw [hpart]
    exact not_emptied nofun nofun
  have hnot : ∀ answer, ¬ ControlSystem.Overlooks t (p, answer) := fun _ =>
    not_overlooks (by simp [hpoint]) (by simp [hpoint])
  cases hprogram.symm.trans hpart
  cases answer with
  | false =>
      cases hserve
      have hnext : t.next config p (.locked false) =
          some (t.move p (.exited 1) [("status", "rate_state_unavailable")]) := by
        simp only [ControlSystem.next, hpoint]
        rfl
      refine sim.matched hnext rfl (fun _ _ => ⟨rfl, rfl⟩) ?_ sim.clockNs sim.holder sim.granted
        sim.signalled (sim.file_cases hemptied) (by simp) fun h => absurd h (hnot _)
      exact ⟨trivial, fun _ => ⟨trivial, fun _ => trivial⟩⟩
  | true =>
      simp only [serve, hopened, Option.bind_some, Option.ite_none_right_eq_some, Option.some.injEq] at hserve
      obtain ⟨hfree, rfl⟩ := hserve
      have hnext : t.next config p (.locked true) = some { t.move p (.reading ms nowNs) [] with
          holder := some p } := by
        simp [ControlSystem.next, hpoint, ← sim.holder, hfree]
      refine sim.matched hnext rfl (fun _ _ => ⟨rfl, rfl⟩) ?_ sim.clockNs (by simp) sim.granted
        sim.signalled (sim.file_cases hemptied) (by simp) fun h => absurd h (hnot _)
      exact ⟨rfl, hreading, hopened, machine, pid, rfl⟩

omit [DecidableEq ι] in
theorem Simulates.lastGranted_eq (sim : Simulates statePath intervalMs s t) :
    s.lastGranted = t.lastGranted := by
  rw [lastGranted, sim.granted]
  rfl

/-- The decision that is taken of the bytes is the one that is taken of the file. -/
theorem tooRecent_take (file : Option CString) :
    tooRecent ms nowNs (some ((file.getD []).take (pidBuffer - 1))) =
      retryMs ms nowNs (previousText file) := by
  have hprevious : previousText file = cString ((file.getD []).take (pidBuffer - 1)) := rfl
  rw [hprevious]
  cases (file.getD []).take (pidBuffer - 1) with
  | nil => simp [tooRecent, cString, retryMs, parseUnsigned]
  | cons c bytes => rfl

theorem step_reading (sim : Simulates statePath intervalMs s t)
    (hpoint : t.point p = .reading ms nowNs) (hprogram : s.program p = .call request rest)
    (hserve : s.serve p request answer = some u) :
    Matched statePath intervalMs config s
      { u with program := Function.update s.program p (rest answer) } t p ⟨request, answer⟩ := by
  have hposition := sim.position p
  rw [hpoint] at hposition
  obtain ⟨rfl, hreading, hopened, machine, pid, hpart⟩ := hposition
  have hemptied : ¬ Emptied (s.program p) := by
    rw [hpart]
    exact not_emptied nofun nofun
  have hlocked : (t.point p).Locked := by
    rw [hpoint]
    trivial
  have hfile := sim.file_eq hlocked hemptied
  have hothers := sim.not_emptiedBy hlocked
  cases hprogram.symm.trans hpart
  -- what the read told, as `ControlSystem` has it
  obtain ⟨rfl, hrecent⟩ : u = s ∧ tooRecent ms nowNs (answer.map Subtype.val) =
      if answer.isSome then retryMs ms nowNs (previousText t.file) else none := by
    cases answer with
    | none =>
        cases hserve
        exact ⟨rfl, rfl⟩
    | some bytes =>
        simp only [serve, hopened, Option.ite_none_right_eq_some, Option.some.injEq] at hserve
        obtain ⟨hbytes, rfl⟩ := hserve
        refine ⟨rfl, ?_⟩
        rw [Option.map_some, hbytes, hfile, tooRecent_take]
        rfl
  have hseen : ControlSystem.Overlooks t (p, .contents answer.isSome) →
      Overlooks u (p, ⟨.read (pidBuffer - 1), answer⟩) := by
    intro h
    obtain ⟨last, hlast, h⟩ := h
    simp only [hpoint] at h
    refine ⟨last, sim.lastGranted_eq ▸ hlast, ?_⟩
    cases answer with
    | none => simp [hopened]
    | some bytes => simpa [hopened, hreading] using h
  cases hretry : if answer.isSome then retryMs ms nowNs (previousText t.file) else none with
  | some retry =>
      have hnext : t.next config p (.contents answer.isSome) = some (t.move p (.unlocking false)
          [("status", "rate_limited"), ("retry_after_ms", .ofList (decimal retry))]) := by
        simp only [ControlSystem.next, hpoint, hretry]
      refine sim.matched hnext rfl (fun _ _ => ⟨rfl, rfl⟩) ?_ sim.clockNs sim.holder sim.granted
        sim.signalled (.inl ⟨hfile, hothers⟩) (by simp) hseen
      refine ⟨hopened, machine, pid, decidedPart machine nowNs (some retry), ?_, ?_⟩
      · exact .report (.report .unlock)
      · change afterRate machine pid (decidedPart machine nowNs _) = _
        rw [hrecent, hretry]
  | none =>
      have hnext : t.next config p (.contents answer.isSome) = some (t.move p (.storing nowNs) []) := by
        simp only [ControlSystem.next, hpoint, hretry]
      have hprogram : afterRate machine pid (decidedPart machine nowNs (tooRecent ms nowNs
          (answer.map Subtype.val))) = afterRate machine pid (truncatePart machine nowNs) := by
        rw [hrecent, hretry, ← storeNow_eq]
        rfl
      refine sim.matched hnext rfl (fun _ _ => ⟨rfl, rfl⟩) ?_ sim.clockNs sim.holder sim.granted
        sim.signalled (.inl ⟨hfile, hothers⟩) ?_ hseen
      · exact ⟨hreading, hopened, machine, pid, truncatePart machine nowNs, by simp, hprogram⟩
      · intro _ h
        change Emptied (afterRate machine pid (decidedPart machine nowNs _)) at h
        rw [hprogram] at h
        exact not_emptied_truncatePart h

theorem step_storing (sim : Simulates statePath intervalMs s t)
    (hpoint : t.point p = .storing nowNs) (hprogram : s.program p = .call request rest)
    (hserve : s.serve p request answer = some u) :
    Matched statePath intervalMs config s
      { u with program := Function.update s.program p (rest answer) } t p ⟨request, answer⟩ := by
  have hposition := sim.position p
  rw [hpoint] at hposition
  obtain ⟨hreading, hopened, machine, pid, part, hmem, hpart⟩ := hposition
  have hlocked : (t.point p).Locked := by
    rw [hpoint]
    trivial
  have hothers := sim.not_emptiedBy hlocked
  have hkeep : t.point = Function.update t.point p (.storing nowNs) := by
    rw [← hpoint, Function.update_eq_self]
  have hfits : ¬ pidBuffer ≤ (decimal nowNs).length := by
    have := length_decimal_lt nowNs
    omega
  simp only [List.mem_cons, List.not_mem_nil, or_false] at hmem
  rcases hmem with rfl | rfl | rfl
  · have hemptied : ¬ Emptied (s.program p) := by
      rw [hpart]
      exact not_emptied nofun nofun
    have hfile := sim.file_eq hlocked hemptied
    cases hprogram.symm.trans hpart
    cases answer with
    | false =>
        cases hserve
        have hnext : t.next config p (.stored .truncateFailed) = some (t.move p (.unlocking false)
            [("status", "rate_state_write_failed")]) := by
          simp only [ControlSystem.next, hpoint, if_neg hfits]
          rfl
        refine sim.matched hnext rfl (fun _ _ => ⟨rfl, rfl⟩) ?_ sim.clockNs sim.holder sim.granted
          sim.signalled (.inl ⟨hfile, hothers⟩) (by simp) ?_
        · exact ⟨hopened, machine, pid, storeFailed machine, .report .unlock, rfl⟩
        · intro h
          obtain ⟨_, _, h⟩ := h
          simp [hpoint] at h
    | true =>
        simp only [serve, hopened, Option.map_some, Option.some.injEq] at hserve
        subst hserve
        have hprogram' : Emptied (afterRate machine pid (seekPart machine nowNs)) :=
          ⟨machine, pid, nowNs, _, by simp, rfl⟩
        refine ⟨t, sim.advance (fun _ _ => ⟨rfl, rfl⟩) hkeep ?_ sim.locked sim.clockNs sim.holder
          sim.granted sim.signalled (.inr ⟨by simp, .inl ⟨nowNs, rfl, hprogram'⟩⟩), .inl rfl⟩
        exact ⟨hreading, hopened, machine, pid, seekPart machine nowNs, by simp, rfl⟩
  · have hfile := sim.file_of_emptied ⟨nowNs, hpoint, hpart ▸ ⟨machine, pid, nowNs, _, by simp, rfl⟩⟩
    cases hprogram.symm.trans hpart
    cases hserve
    cases answer with
    | false =>
        have hnext : t.next config p (.stored .seekFailed) = some { t.move p (.unlocking false)
            [("status", "rate_state_write_failed")] with file := some [] } := by
          simp only [ControlSystem.next, hpoint, if_neg hfits]
          rfl
        refine sim.matched hnext rfl (fun _ _ => ⟨rfl, rfl⟩) ?_ sim.clockNs sim.holder sim.granted
          sim.signalled (.inl ⟨hfile, hothers⟩) (by simp) ?_
        · exact ⟨hopened, machine, pid, storeFailed machine, .report .unlock, rfl⟩
        · intro h
          obtain ⟨last, hlast, _⟩ := h
          exact ⟨last, sim.lastGranted_eq ▸ hlast, rfl⟩
    | true =>
        have hprogram' : Emptied (afterRate machine pid (writePart machine nowNs)) :=
          ⟨machine, pid, nowNs, _, by simp, rfl⟩
        refine ⟨t, sim.advance (fun _ _ => ⟨rfl, rfl⟩) hkeep ?_ sim.locked sim.clockNs sim.holder
          sim.granted sim.signalled (.inr ⟨hfile, .inl ⟨nowNs, rfl, hprogram'⟩⟩), .inl rfl⟩
        exact ⟨hreading, hopened, machine, pid, writePart machine nowNs, by simp, rfl⟩
  · have hfile := sim.file_of_emptied ⟨nowNs, hpoint, hpart ▸ ⟨machine, pid, nowNs, _, by simp, rfl⟩⟩
    cases hprogram.symm.trans hpart
    have hseen : answer ≠ some (decimal nowNs).length →
        ControlSystem.Overlooks t (p, .stored (.written answer)) →
          Overlooks s (p, ⟨.write (decimal nowNs), answer⟩) := by
      intro hpartial h
      obtain ⟨last, hlast, _⟩ := h
      exact ⟨last, sim.lastGranted_eq ▸ hlast, hpartial⟩
    by_cases hwritten : answer = some (decimal nowNs).length
    · subst hwritten
      simp only [serve, hopened, Option.map_some, Option.some.injEq, hreading, hfile] at hserve
      subst hserve
      have hnext : t.next config p (.stored (.written (some (decimal nowNs).length))) =
          some { t.move p (.unlocking true) [] with
            file := some (decimal nowNs)
            granted := t.granted ++ [(p, nowNs)] } := by
        simp [ControlSystem.next, hpoint, if_neg hfits, StoreOutcome.contents]
      refine sim.matched hnext rfl (fun _ _ => ⟨rfl, rfl⟩) ?_ sim.clockNs sim.holder ?_
        sim.signalled (.inl ⟨?_, hothers⟩) (by simp) ?_
      · refine ⟨hopened, machine, pid, unlockReturning true, .unlock, ?_⟩
        change afterRate machine pid (if some _ ≠ some _ then _ else _) = _
        rw [if_neg (by simp)]
      · simp [sim.granted]
      · simp [overwritten]
      · intro h
        obtain ⟨_, _, h⟩ := h
        simp [hpoint] at h
    · -- the timestamp is cut off, or none of it is written
      have hnext : t.next config p (.stored (.written answer)) = some { t.move p (.unlocking false)
          [("status", "rate_state_write_failed")] with
            file := (StoreOutcome.written answer).contents (decimal nowNs) t.file } := by
        simp [ControlSystem.next, hpoint, if_neg hfits, hwritten]
      have hprogram' : At statePath intervalMs (afterRate machine pid
          (if answer ≠ some (decimal nowNs).length then storeFailed machine else unlockReturning true))
          (s.opened p) (s.reading p) (.unlocking false) := by
        rw [if_pos hwritten]
        exact ⟨hopened, machine, pid, storeFailed machine, .report .unlock, rfl⟩
      cases answer with
      | none =>
          cases hserve
          exact sim.matched hnext rfl (fun _ _ => ⟨rfl, rfl⟩) hprogram' sim.clockNs sim.holder
            sim.granted sim.signalled (.inl ⟨hfile, hothers⟩) (by simp) (hseen hwritten)
      | some count =>
          have hcount : count ≠ (decimal nowNs).length := fun h => hwritten (by rw [h])
          simp only [serve, hopened, Option.map_some, Option.some.injEq, hreading, hfile,
            if_neg hcount] at hserve
          subst hserve
          refine sim.matched hnext rfl (fun _ _ => ⟨rfl, rfl⟩) hprogram' sim.clockNs sim.holder
            sim.granted sim.signalled (.inl ⟨?_, hothers⟩) (by simp) (hseen hwritten)
          simp [overwritten, StoreOutcome.contents]

theorem step_unlocking {granted : Bool} (sim : Simulates statePath intervalMs s t)
    (hpoint : t.point p = .unlocking granted) (hprogram : s.program p = .call request rest)
    (hserve : s.serve p request answer = some u) :
    Matched statePath intervalMs config s
      { u with program := Function.update s.program p (rest answer) } t p ⟨request, answer⟩ := by
  have hposition := sim.position p
  rw [hpoint] at hposition
  obtain ⟨hopened, machine, pid, part, hunlocks, hpart⟩ := hposition
  have hlocked : (t.point p).Locked := by
    rw [hpoint]
    trivial
  have hothers := sim.not_emptiedBy hlocked
  have hkeep : t.point = Function.update t.point p (.unlocking granted) := by
    rw [← hpoint, Function.update_eq_self]
  have hemptied : ¬ Emptied (s.program p) := by
    rw [hpart]
    cases hunlocks <;> exact not_emptied nofun nofun
  have hfile := sim.file_eq hlocked hemptied
  cases hunlocks with
  | unlock =>
      cases hprogram.symm.trans hpart
      cases hserve
      have hnext : t.next config p .unlocked =
          some { t.move p (if granted then .signalling else .exited 1) [] with holder := none } := by
        simp only [ControlSystem.next, hpoint]
      have hholder : s.holder statePath = some p := by
        rw [sim.holder]
        exact (sim.locked p).mp hlocked
      refine sim.matched hnext rfl (fun _ _ => ⟨rfl, rfl⟩) ?_ sim.clockNs ?_ sim.granted
        sim.signalled (.inl ⟨hfile, hothers⟩) ?_ fun h => absurd h (not_overlooks (by simp [hpoint])
          (by simp [hpoint]))
      · cases granted with
        | false => exact ⟨trivial, fun _ => trivial⟩
        | true => exact ⟨machine, pid, .inr rfl⟩
      · simp [release, hopened, hholder]
      · cases granted <;> simp
  | print hlater =>
      cases hprogram.symm.trans hpart
      cases hserve
      refine ⟨t, sim.advance (fun _ _ => ⟨rfl, rfl⟩) hkeep ?_ sim.locked sim.clockNs sim.holder
        sim.granted sim.signalled (.inl ⟨hfile, by simp, hothers⟩), .inl rfl⟩
      exact ⟨hopened, machine, pid, _, hlater, rfl⟩

theorem step_signalling (sim : Simulates statePath intervalMs s t)
    (hpoint : t.point p = .signalling) (hprogram : s.program p = .call request rest)
    (hserve : s.serve p request answer = some u) :
    Matched statePath intervalMs config s
      { u with program := Function.update s.program p (rest answer) } t p ⟨request, answer⟩ := by
  have hposition := sim.position p
  rw [hpoint] at hposition
  obtain ⟨machine, pid, hpart | hpart⟩ := hposition
  · have hemptied : ¬ Emptied (s.program p) := by
      rw [hpart]
      exact not_emptied nofun nofun
    have hfile := sim.file_cases hemptied
    have hnot : ∀ answer, ¬ ControlSystem.Overlooks t (p, answer) := fun _ =>
      not_overlooks (by simp [hpoint]) (by simp [hpoint])
    cases hprogram.symm.trans hpart
    cases answer with
    | sent =>
        cases hserve
        have hnext : t.next config p (.killed true) = some { t.move p (.exited 0)
            [("status", "triggered"), ("pid", toString config.pid), ("signal", "SIGUSR1")] with
              signalled := t.signalled ++ [p] } := by
          simp only [ControlSystem.next, hpoint]
          rfl
        refine sim.matched hnext rfl (fun _ _ => ⟨rfl, rfl⟩) ?_ sim.clockNs sim.holder sim.granted
          (by simp [sim.signalled]) hfile (by simp) fun h => absurd h (hnot _)
        exact ⟨trivial, fun _ => ⟨trivial, fun _ => ⟨trivial, fun _ => trivial⟩⟩⟩
    | denied | failed =>
        cases hserve
        have hnext : t.next config p (.killed false) =
            some (t.move p (.exited 1) [("status", "signal_failed")]) := by
          simp only [ControlSystem.next, hpoint]
          rfl
        refine sim.matched hnext rfl (fun _ _ => ⟨rfl, rfl⟩) ?_ sim.clockNs sim.holder sim.granted
          sim.signalled hfile (by simp) fun h => absurd h (hnot _)
        exact ⟨trivial, fun _ => trivial⟩
  · cases hprogram.symm.trans hpart
    refine ⟨t, sim.inspect hprogram trivial hserve (by rw [hpoint]; exact id) ?_, .inl rfl⟩
    rw [hpoint]
    exact ⟨machine, pid, .inl rfl⟩

theorem step_clock (hinterval : loadInterval config.override config.environment = some intervalMs)
    (sim : Simulates statePath intervalMs s t)
    (hpoint : t.point p = .clock) (hprogram : s.program p = .call request rest)
    (hserve : s.serve p request answer = some u) :
    Matched statePath intervalMs config s
      { u with program := Function.update s.program p (rest answer) } t p ⟨request, answer⟩ := by
  have hposition := sim.position p
  have hout : ¬ (t.point p).Locked := by
    rw [hpoint]
    exact id
  rw [hpoint, hprogram] at hposition
  cases hposition with
  | inspect h =>
      refine ⟨t, sim.inspect hprogram h.1 hserve hout ?_, .inl rfl⟩
      rw [hpoint]
      exact .inspect (h.2 answer)
  | step h hrest =>
      refine ⟨t, sim.inspect hprogram h hserve hout ?_, .inl rfl⟩
      rw [hpoint]
      exact hrest answer
  | @clock _ machine pid hfailed hread =>
      have hemptied : ¬ Emptied (s.program p) := by
        rw [hprogram]
        exact not_emptied nofun nofun
      have hfile := sim.file_cases hemptied
      cases answer with
      | none =>
          cases hserve
          have hkeep : t.point = Function.update t.point p .clock := by
            rw [← hpoint, Function.update_eq_self]
          exact ⟨t, sim.advance (fun _ _ => ⟨rfl, rfl⟩) hkeep (.inspect hfailed) sim.locked sim.clockNs
            sim.holder sim.granted sim.signalled (hfile.imp (fun hsame => ⟨hsame.1, by simp, hsame.2⟩)
              fun hothers => ⟨hothers.1, .inr hothers.2⟩), .inl rfl⟩
      | some nowNs =>
          simp only [serve, Option.ite_none_right_eq_some, Option.some.injEq] at hserve
          obtain ⟨hle, rfl⟩ := hserve
          have hnext : t.next config p (.clock (some nowNs)) =
              some { t.move p (.opening intervalMs nowNs) [] with clockNs := nowNs } := by
            simp [ControlSystem.next, hpoint, hinterval, ← sim.clockNs, hle]
          refine sim.matched hnext rfl (fun q hq => ⟨rfl, by simp [hq]⟩) ?_ rfl sim.holder sim.granted
            sim.signalled hfile (by simp) fun h => absurd h (not_overlooks (by simp [hpoint])
              (by simp [hpoint]))
          exact ⟨rfl, by simp, machine, pid, hread nowNs⟩

theorem step_exited {exitStatus : Nat} (sim : Simulates statePath intervalMs s t)
    (hpoint : t.point p = .exited exitStatus) (hprogram : s.program p = .call request rest)
    (hserve : s.serve p request answer = some u) :
    Matched statePath intervalMs config s
      { u with program := Function.update s.program p (rest answer) } t p ⟨request, answer⟩ := by
  have hposition := sim.position p
  have hout : ¬ (t.point p).Locked := by
    rw [hpoint]
    exact id
  rw [hpoint, hprogram] at hposition
  refine ⟨t, sim.inspect hprogram hposition.1 hserve hout ?_, .inl rfl⟩
  rw [hpoint]
  exact hposition.2 answer

end Steps

theorem steps_cases {s' : Processes ι} {event : Program.Event SystemCall.Answer}
    (h : Steps s (p, event) s') :
    ∃ rest u, s.program p = .call event.request rest ∧
      s.serve p event.request event.answer = some u ∧
        s' = { u with program := Function.update s.program p (rest event.answer) } := by
  simp only [Steps, next] at h
  split at h
  · cases h
  · rename_i request rest hprogram
    split at h
    · rename_i hrequest
      subst hrequest
      obtain ⟨u, hserve, rfl⟩ := Option.map_eq_some_iff.mp h
      exact ⟨rest, u, hprogram, hserve, rfl⟩
    · cases h

/-- Every call of a process is a step of `ControlSystem`, or none. -/
theorem Simulates.step {s' : Processes ι} {event : Program.Event SystemCall.Answer}
    (hinterval : loadInterval config.override config.environment = some intervalMs)
    (sim : Simulates statePath intervalMs s t) (h : Steps s (p, event) s') :
    Matched statePath intervalMs config s s' t p event := by
  obtain ⟨rest, u, hprogram, hserve, rfl⟩ := steps_cases h
  cases hpoint : t.point p with
  | clock => exact step_clock hinterval sim hpoint hprogram hserve
  | opening ms nowNs => exact step_opening sim hpoint hprogram hserve
  | locking ms nowNs => exact step_locking sim hpoint hprogram hserve
  | reading ms nowNs => exact step_reading sim hpoint hprogram hserve
  | storing nowNs => exact step_storing sim hpoint hprogram hserve
  | unlocking granted => exact step_unlocking sim hpoint hprogram hserve
  | signalling => exact step_signalling sim hpoint hprogram hserve
  | exited exitStatus => exact step_exited sim hpoint hprogram hserve

section Start

/-- Every process runs `main`, and those that do `next` share the state file and the interval. -/
structure Invocations (statePath : CString) (intervalMs : UInt64) (program : ι → Calls Nat) where
  name : ι → CString
  environment : ι → Environment
  args : ι → List CString
  program_eq : ∀ p, program p = main (name p) (environment p) (args p)
  shared : ∀ p settings, parseArgs (environment p).settings (args p) = .settings settings →
    settings.action = some .next → settings.statePath = statePath ∧
      ∀ ms, loadInterval settings.intervalOverride (environment p).minIntervalMs = some ms →
        ms = intervalMs

theorem approaches_bind {α : Type} {program : Calls α} {next : α → Calls Nat}
    (h : program.Only Inspects) (hnext : ∀ value, Approaches statePath intervalMs (next value)) :
    Approaches statePath intervalMs (program >>= next) := by
  induction program with
  | done value => exact hnext value
  | call request rest ih => exact .step h.1 fun answer => ih answer (h.2 answer)

theorem approaches_main {name : CString} {environment : Environment} {args : List CString}
    (hshared : ∀ settings, parseArgs environment.settings args = .settings settings →
      settings.action = some .next → settings.statePath = statePath ∧
        ∀ ms, loadInterval settings.intervalOverride environment.minIntervalMs = some ms →
          ms = intervalMs) : Approaches statePath intervalMs (main name environment args) := by
  cases hparse : parseArgs environment.settings args with
  | usage exitStatus =>
      simp only [main, hparse]
      exact .inspect ((usage_inspects name).bind fun _ => trivial)
  | settings settings =>
      simp only [main, hparse]
      cases haction : settings.action with
      | none => exact .inspect ((usage_inspects name).bind fun _ => trivial)
      | some action =>
          apply approaches_bind (loadTarget_inspects _ _)
          intro target
          cases action with
          | status => exact .inspect statusAction_inspects
          | next =>
              obtain ⟨hstate, hms⟩ := hshared settings hparse haction
              change Approaches _ _ (if target.result ≠ .found then _ else _)
              split_ifs
              · exact .inspect ((reportTargetError_inspects target).bind fun _ => trivial)
              · cases hinterval : loadInterval settings.intervalOverride environment.minIntervalMs with
                | none =>
                    simp only [nextAction, hinterval]
                    exact .inspect ⟨trivial, fun _ => trivial⟩
                | some ms =>
                    cases hms ms hinterval
                    simp only [nextAction, hinterval]
                    refine @Approaches.clock _ _ _ settings.machine target.pid
                      ⟨trivial, fun _ => trivial⟩ fun nowNs => ?_
                    rw [← hstate]
                    rfl

omit [DecidableEq ι] in
theorem simulates_start {program : ι → Calls Nat} (invocations : Invocations statePath intervalMs program)
    (files : CString → Option CString) (clockNs : UInt64) :
    Simulates statePath intervalMs (start files clockNs program)
      (ControlSystem.start (files statePath) clockNs) where
  clockNs := rfl
  holder := rfl
  granted := rfl
  signalled := rfl
  locked := LockedBy.free fun _ => id
  position := by
    intro p
    change Approaches statePath intervalMs (program p)
    rw [invocations.program_eq p]
    exact approaches_main (invocations.shared p)
  file := .inl ⟨rfl, nofun⟩

/-- Whatever calls the processes make, and in whatever order, the invocations of `ControlSystem` can
have come to the same. -/
theorem run_simulated {program : ι → Calls Nat} (invocations : Invocations statePath intervalMs program)
    (hinterval : loadInterval config.override config.environment = some intervalMs)
    {files : CString → Option CString} {clockNs : UInt64}
    {events : List (ι × Program.Event SystemCall.Answer)}
    (run : Run Steps (start files clockNs program) events s) :
    ∃ steps t, Run (ControlSystem.Steps config) (ControlSystem.start (files statePath) clockNs) steps t ∧
      Simulates statePath intervalMs s t := by
  refine run.simulate (fun s event s' t sim h => ?_) (simulates_start invocations files clockNs)
  obtain ⟨p, event⟩ := event
  obtain ⟨t', sim', rfl | ⟨answer, hnext, _⟩⟩ := sim.step hinterval h
  · exact ⟨[], t', .nil t', sim'⟩
  · exact ⟨[(p, answer)], t', Run.singleton_iff.mpr hnext, sim'⟩

private def nextProgram : Bool → Calls Nat := fun _ => main [] noEnvironment [nextArg]

private theorem parseArgs_next : parseArgs noEnvironment.settings [nextArg] = .settings nextSettings :=
  rfl

private def nextInvocations : Invocations nextSettings.statePath 500 nextProgram where
  name := fun _ => []
  environment := fun _ => noEnvironment
  args := fun _ => [nextArg]
  program_eq := fun _ => rfl
  shared := by
    intro _ settings hparse _
    cases parseArgs_next.symm.trans hparse
    refine ⟨rfl, fun ms hms => ?_⟩
    have hload : loadInterval nextSettings.intervalOverride noEnvironment.minIntervalMs = some 500 := by
      decide +kernel
    exact Option.some.inj (hms.symm.trans hload)

private def firstGrant : Grant 500 1000 := ⟨some ⟨[], by decide⟩, rfl⟩

private def firstTrace : Trace :=
  cartFound.trace ++ ⟨.clock, some 1000⟩ :: firstGrant.trace nextSettings.statePath ++
    [⟨.kill 42 .usr1, .sent⟩]

/-- One process from its start to its signal, with nothing recorded before. -/
private def firstEvents : List (Bool × Program.Event SystemCall.Answer) :=
  firstTrace.map fun event => (false, event)

private def sample : Option (Processes Bool) :=
  execute (fun s event => s.next event.1 event.2) (start (fun _ => none) 0 nextProgram) firstEvents

private theorem sample_signalled : sample.map signalled = some [false] := rfl

theorem run_simulated_first :
    ∃ s, Run Steps (start (fun _ => none) 0 nextProgram) firstEvents s ∧ s.signalled = [false] ∧
      ∃ steps t, Run (ControlSystem.Steps ⟨none, none, 42⟩) (ControlSystem.start none 0) steps t ∧
        Simulates nextSettings.statePath 500 s t := by
  obtain ⟨s, hsample, hsignalled⟩ := Option.map_eq_some_iff.mp sample_signalled
  have hrun : Run Steps (start (fun _ => none) 0 nextProgram) firstEvents s := Run.of_execute hsample
  have hinterval : loadInterval none none = some 500 := by decide
  exact ⟨s, hrun, hsignalled, run_simulated nextInvocations hinterval hrun⟩

end Start

section Apart

/-- Whoever sends SIGUSR1 does it once, after a grant, and exits. -/
structure Signals (t : ControlSystem ι) : Prop where
  nodup : t.signalled.Nodup
  exited : ∀ p ∈ t.signalled, t.point p = .exited 0
  granted : ∀ p, t.point p = .unlocking true ∨ t.point p = .signalling ∨ p ∈ t.signalled →
    ∃ nowNs, (p, nowNs) ∈ t.granted

/-- What a step does for the signals: it sends one, or leads to sending one only after a grant. -/
theorem next_signals {t' : ControlSystem ι} {answer : ControlAnswer}
    (h : t.next config p answer = some t') :
    ∃ next, t'.point = Function.update t.point p next ∧ (∀ exitStatus, t.point p ≠ .exited exitStatus) ∧
      t.granted ⊆ t'.granted ∧
        ((t.point p = .signalling ∧ t'.signalled = t.signalled ++ [p] ∧ next = .exited 0) ∨
          (t'.signalled = t.signalled ∧ (next = .signalling → t.point p = .unlocking true) ∧
            (next = .unlocking true → ∃ nowNs, (p, nowNs) ∈ t'.granted))) := by
  revert h
  fun_cases ControlSystem.next config t p answer <;> intro h <;> cases h
  case case14 granted hpoint =>
      refine ⟨_, rfl, by simp [hpoint], fun _ => id, .inr ⟨rfl, ?_, ?_⟩⟩ <;> cases granted
      · simp
      · exact fun _ => hpoint
      · simp
      · simp
  all_goals
    refine ⟨_, rfl, by simp [*], by simp, ?_⟩
    first
    | exact .inl ⟨‹_›, rfl, rfl⟩
    | exact .inr ⟨rfl, by simp_all, by simp_all⟩

theorem Signals.step {t' : ControlSystem ι} {answer : ControlAnswer} (signals : Signals t)
    (h : t.next config p answer = some t') : Signals t' := by
  obtain ⟨next, hpoint, hout, hsubset, hcases⟩ := next_signals h
  have hfresh : p ∉ t.signalled := fun hmem => hout 0 (signals.exited p hmem)
  have hothers : ∀ q, q ≠ p → t'.point q = t.point q := by
    intro q hq
    simp [hpoint, hq]
  have hkept : ∀ q nowNs, (q, nowNs) ∈ t.granted → (q, nowNs) ∈ t'.granted := fun q nowNs hmem => hsubset hmem
  rcases hcases with ⟨hsignalling, hsignalled, rfl⟩ | ⟨hsignalled, hsignalling, hunlocking⟩
  · have hgranted : ∃ nowNs, (p, nowNs) ∈ t'.granted :=
      (signals.granted p (.inr (.inl hsignalling))).imp fun nowNs => hkept p nowNs
    refine ⟨?_, ?_, ?_⟩
    · rw [hsignalled]
      exact List.nodup_append_comm.mp (by simpa using ⟨hfresh, signals.nodup⟩)
    · intro q hq
      by_cases heq : q = p
      · subst heq
        simp [hpoint]
      · rw [hothers q heq]
        rw [hsignalled, List.mem_append, List.mem_singleton, or_iff_left heq] at hq
        exact signals.exited q hq
    · intro q hq
      by_cases heq : q = p
      · rwa [heq]
      · rw [hothers q heq, hsignalled, List.mem_append, List.mem_singleton, or_iff_left heq] at hq
        exact (signals.granted q hq).imp fun nowNs => hkept q nowNs
  · refine ⟨hsignalled ▸ signals.nodup, ?_, ?_⟩
    · intro q hq
      rw [hsignalled] at hq
      rw [hothers q fun heq => hfresh (heq ▸ hq)]
      exact signals.exited q hq
    · intro q hq
      by_cases heq : q = p
      · subst heq
        rw [hpoint, Function.update_self, hsignalled] at hq
        rcases hq with hq | hq | hq
        · exact hunlocking hq
        · exact (signals.granted q (.inl (hsignalling hq))).imp fun nowNs => hkept q nowNs
        · exact absurd hq hfresh
      · rw [hothers q heq, hsignalled] at hq
        exact (signals.granted q hq).imp fun nowNs => hkept q nowNs

/-- However many processes run the program with one state file and one interval, and however their
calls interleave: unless a grant is overlooked, the timestamps are an interval apart, and no process
sends SIGUSR1 more than once, or without a timestamp of its own. -/
theorem signals_apart {program : ι → Calls Nat} (invocations : Invocations statePath intervalMs program)
    (hinterval : intervalMs ≤ maxIntervalMs) {files : CString → Option CString} {clockNs : UInt64}
    {events : List (ι × Program.Event SystemCall.Answer)}
    (hseen : ∀ past event rest u, events = past ++ event :: rest →
      Run Steps (start files clockNs program) past u → ¬ Overlooks u event)
    (run : Run Steps (start files clockNs program) events s) :
    (s.granted.Pairwise fun g h => Apart (intervalMs.toNat * 1000000) g.2 h.2) ∧
      s.signalled.Nodup ∧ ∀ p ∈ s.signalled, ∃ nowNs, (p, nowNs) ∈ s.granted := by
  let config : ControlConfig := ⟨some (decimal intervalMs), none, 0⟩
  have hconfig : loadInterval config.override config.environment = some intervalMs := by
    simp [config, loadInterval, parseUnsigned_decimal, hinterval]
  have hinv : ∃ t, Simulates statePath intervalMs s t ∧ ControlSystem.Limited intervalMs t ∧ Signals t := by
    refine Run.always_of_good (P := fun s => ∃ t, Simulates statePath intervalMs s t ∧
      ControlSystem.Limited intervalMs t ∧ Signals t) ?_ ?_ hseen (List.prefix_refl _) run
    · exact ⟨_, simulates_start invocations files clockNs, ControlSystem.limited_start _ _,
        ⟨List.nodup_nil, nofun, by simp [ControlSystem.start]⟩⟩
    · intro u event v _ hu hgood hstep
      obtain ⟨t, sim, limited, signals⟩ := hu
      obtain ⟨p, event⟩ := event
      obtain ⟨t', sim', rfl | ⟨answer, hnext, hlooks⟩⟩ := sim.step hconfig hstep
      · exact ⟨_, sim', limited, signals⟩
      · exact ⟨t', sim', limited.step hconfig (fun h => hgood (hlooks h)) hnext, signals.step hnext⟩
  obtain ⟨t, sim, limited, signals⟩ := hinv
  rw [sim.granted, sim.signalled]
  exact ⟨limited.pairwise, signals.nodup, fun p hp => signals.granted p (.inr (.inr hp))⟩

instance decidableOverlooks (s : Processes ι) (event : ι × Program.Event SystemCall.Answer) :
    Decidable (Overlooks s event) := by
  refine @Option.decidableExistsMem _ _ (fun last => ?_) s.lastGranted
  split <;> infer_instance

set_option maxRecDepth 8000 in
private theorem firstEvents_seen : Throughout (fun s event => s.next event.1 event.2)
    (fun u event => ¬ Overlooks u event) (start (fun _ => none) 0 nextProgram) firstEvents := by
  decide

theorem signals_apart_first :
    ∃ s, Run Steps (start (fun _ => none) 0 nextProgram) firstEvents s ∧ s.signalled = [false] ∧
      (s.granted.Pairwise fun g h => Apart (500 * 1000000) g.2 h.2) ∧
        s.signalled.Nodup ∧ ∀ p ∈ s.signalled, ∃ nowNs, (p, nowNs) ∈ s.granted := by
  obtain ⟨s, hsample, hsignalled⟩ := Option.map_eq_some_iff.mp sample_signalled
  have hrun : Run Steps (start (fun _ => none) 0 nextProgram) firstEvents s := Run.of_execute hsample
  have hinterval : (500 : UInt64) ≤ maxIntervalMs := by decide
  have hseen : ∀ past event rest u, firstEvents = past ++ event :: rest →
      Run Steps (start (fun _ => none) 0 nextProgram) past u → ¬ Overlooks u event :=
    firstEvents_seen.good_of_run
  have hall := signals_apart nextInvocations hinterval hseen hrun
  exact ⟨s, hrun, hsignalled, hall⟩

end Apart

end Processes

end VitaControl

end VitaLinuxPort
