import VitaLinuxPort.Proof.VitaControl.RateState
import VitaLinuxPort.Toolkit.VitaControl.Invocation

/-!
# What an invocation does to the system

An invocation looks before it acts. Looking is reading the pidfile, asking whether the process is
there and reading its link under `/proc`; acting is anything that touches the state file or sends
SIGUSR1. The paths of `main` that act all start with a target that was found, and the one that
signals has nothing to choose: it is written out call by call.
-/

namespace VitaLinuxPort

namespace VitaControl

open Program

variable {events : Trace} {machine : Bool} {target : Target} {settings : Settings}
  {environment : Environment} {pid : Nat} {intervalMs nowNs : UInt64}

/-- The calls that look for the target, and those that report. -/
def Inspects : SystemCall → Prop
  | .openReadOnly _ | .read _ | .readlink _ _ | .close | .print _ | .kill _ .probe => True
  | _ => False

/-- A call that changes nothing. -/
def Looks (request : SystemCall) : Prop := Inspects request ∨ request = .clock

theorem not_looks_usr1 : ¬ Looks (.kill pid .usr1) := by
  simp [Looks, Inspects]

theorem parsePid_range {text : CString} (h : parsePid text = some pid) :
    0 < pid ∧ pid < 2 ^ 31 := by
  simp only [parsePid] at h
  cases hparsed : parseUnsigned text with
  | none => simp [hparsed] at h
  | some parsed =>
      simp only [hparsed, Option.ite_none_left_eq_some, not_or, Option.some.injEq] at h
      obtain ⟨⟨hzero, hmax⟩, rfl⟩ := h
      have hmax' : ¬ 2147483647 < parsed.toNat := by simpa [int32Max, UInt64.lt_iff_toNat_lt] using hmax
      have hpos : parsed.toNat ≠ 0 := fun hnat => hzero (UInt64.toNat_inj.mp (by simpa using hnat))
      omega

/-- The answers of a system in which the target of these settings is found. -/
structure Found (settings : Settings) where
  bytes : { bytes : CString // bytes.length ≤ pidBuffer - 1 }
  pid : Nat
  probed : KillResult
  exe : { bytes : CString // bytes.length ≤ smallBuffer - 1 }
  nonempty : bytes.val ≠ []
  parsed : parsePid (smallText bytes.val) = some pid
  alive : probed ≠ .failed
  expected : cString exe.val = settings.expectedExe

/-- The calls that find it. -/
def Found.trace (found : Found settings) : Trace :=
  [⟨.openReadOnly settings.pidfile, true⟩, ⟨.read (pidBuffer - 1), some found.bytes⟩, ⟨.close, ()⟩,
    ⟨.kill found.pid .probe, found.probed⟩,
    ⟨.readlink (procExe found.pid) (smallBuffer - 1), some found.exe⟩]

/-- The answer to the read of the state file with which a call is not refused. -/
structure Grant (intervalMs nowNs : UInt64) where
  previous : Option { bytes : CString // bytes.length ≤ pidBuffer - 1 }
  notRecent : tooRecent intervalMs nowNs (previous.map Subtype.val) = none

/-- The calls that record the timestamp. -/
def Grant.trace (grant : Grant intervalMs nowNs) (statePath : CString) : Trace :=
  [⟨.openOrCreate statePath, true⟩, ⟨.lock, true⟩, ⟨.read (pidBuffer - 1), grant.previous⟩,
    ⟨.truncate, true⟩, ⟨.seek, true⟩, ⟨.write (decimal nowNs), some (decimal nowNs).length⟩,
    ⟨.unlock, ()⟩, ⟨.close, ()⟩]

section Looking

theorem report_inspects (key value : String) : (report machine key value).Only Inspects := by
  simp [report, print, Inspects]

theorem usage_inspects (program : CString) : (usage program).Only Inspects := by
  simp [usage, print, Inspects]

theorem readSmallFile_inspects (path : CString) (capacity : Nat) :
    (readSmallFile path capacity).Only Inspects := by
  simp only [readSmallFile, ask_bind, only_call, only_ite, only_pure, Inspects, true_and, implies_true,
    and_true]
  intro _ _ bytes _
  split <;> trivial

theorem loadTarget_inspects (pidfile expectedExe : CString) :
    (loadTarget pidfile expectedExe).Only Inspects := by
  apply (readSmallFile_inspects pidfile pidBuffer).bind
  intro text
  split
  · trivial
  · simp only [ask_bind, only_call, only_ite, only_pure, Inspects, true_and, implies_true]
    intro _ _ exe
    split
    · trivial
    · simp

theorem reportTargetError_inspects (target : Target) : (reportTargetError machine target).Only Inspects := by
  unfold reportTargetError
  split <;> simp [report, print, Inspects]

theorem statusAction_inspects : (statusAction environment settings target).Only Inspects := by
  unfold statusAction
  split
  · simp [report, print, Inspects]
  · simp only [report, print, ask_bind, only_call, only_ite, only_pure, Inspects, true_and, implies_true,
      and_true]
    have hend : (do reportTargetError settings.machine target; pure 1 : Calls Nat).Only Inspects :=
      (reportTargetError_inspects target).bind fun _ => trivial
    split_ifs <;> simp [hend]

end Looking

section Finding

theorem readSmallFile_ends_some {path text : CString} {capacity : Nat} :
    (readSmallFile path capacity).Ends events (some text) ↔
      ∃ bytes : { bytes : CString // bytes.length ≤ capacity - 1 }, bytes.val ≠ [] ∧
        text = smallText bytes.val ∧
          events = [⟨.openReadOnly path, true⟩, ⟨.read (capacity - 1), some bytes⟩, ⟨.close, ()⟩] := by
  constructor
  · intro h
    simp only [readSmallFile, ask_bind, call_ends] at h
    obtain ⟨opened, later, rfl, h⟩ := h
    cases opened with
    | false => simp [pure_ends] at h
    | true =>
        simp only [if_true, call_ends] at h
        obtain ⟨bytes, later, rfl, _, _, rfl, h⟩ := h
        match bytes with
        | none => simp [pure_ends] at h
        | some ⟨[], _⟩ => simp [pure_ends] at h
        | some ⟨c :: bytes, hbytes⟩ =>
            obtain ⟨rfl, htext⟩ := pure_ends.mp h
            exact ⟨⟨c :: bytes, hbytes⟩, by simp, (Option.some.inj htext).symm, rfl⟩
  · intro h
    obtain ⟨⟨bytes, hbytes⟩, hne, rfl, rfl⟩ := h
    refine .answered (.answered (.answered ?_))
    cases bytes with
    | nil => exact absurd rfl hne
    | cons c bytes => exact .stay _

theorem loadTarget_found_iff :
    (loadTarget settings.pidfile settings.expectedExe).Ends events target ∧ target.result = .found ↔
      ∃ found : Found settings, events = found.trace ∧
        target = ⟨.found, found.pid, settings.expectedExe⟩ := by
  constructor
  · intro h
    obtain ⟨hload, hfound⟩ := h
    obtain ⟨text, front, back, rfl, hread, hrest⟩ := bind_ends_iff.mp hload
    cases hpid : text.bind parsePid with
    | none =>
        rw [hpid] at hrest
        obtain ⟨_, rfl⟩ := pure_ends.mp hrest
        cases hfound
    | some pid =>
        obtain ⟨text, rfl, hparsed⟩ := Option.bind_eq_some_iff.mp hpid
        obtain ⟨bytes, hne, rfl, rfl⟩ := readSmallFile_ends_some.mp hread
        rw [hpid] at hrest
        obtain ⟨probed, later, rfl, hprobe⟩ := call_ends.mp hrest
        change Ends (if probed = .failed then _ else _) _ _ at hprobe
        split_ifs at hprobe with hprobed
        · obtain ⟨_, rfl⟩ := pure_ends.mp hprobe
          cases hfound
        · obtain ⟨exe, later, rfl, hlink⟩ := call_ends.mp hprobe
          cases exe with
          | none =>
              obtain ⟨_, rfl⟩ := pure_ends.mp hlink
              cases hfound
          | some exe =>
              change Ends (if cString exe.val = settings.expectedExe then _ else _) _ _ at hlink
              split_ifs at hlink with hexe
              · obtain ⟨rfl, rfl⟩ := pure_ends.mp hlink
                exact ⟨⟨bytes, pid, probed, exe, hne, hparsed, hprobed, hexe⟩, rfl, by rw [hexe]⟩
              · obtain ⟨_, rfl⟩ := pure_ends.mp hlink
                cases hfound
  · intro h
    obtain ⟨found, rfl, rfl⟩ := h
    refine ⟨bind_ends_iff.mpr ⟨some (smallText found.bytes.val), _, _, rfl,
      readSmallFile_ends_some.mpr ⟨found.bytes, found.nonempty, rfl, rfl⟩, ?_⟩, rfl⟩
    simp only [Option.bind_some, found.parsed]
    apply ask_leads
    rw [if_neg found.alive]
    apply ask_leads
    change Ends (if cString found.exe.val = settings.expectedExe then _ else _) _ _
    rw [if_pos found.expected, found.expected]
    exact .stay _

end Finding

section Recording

/-- The calls of `update_rate_state`. -/
def Records (statePath : CString) (nowNs : UInt64) : SystemCall → Prop
  | .openOrCreate path => path = statePath
  | .write text => text = decimal nowNs
  | .kill _ _ => False
  | _ => True

theorem unlockReturning_records {statePath : CString} (granted : Bool) :
    (unlockReturning granted).Only (Records statePath nowNs) := by
  simp [unlockReturning, Records]

theorem storeNow_records {statePath : CString} :
    (storeNow machine nowNs).Only (Records statePath nowNs) := by
  simp [storeNow, report, print, Records, unlockReturning_records]

theorem updateRateState_records {statePath : CString} :
    (updateRateState statePath intervalMs nowNs machine).Only (Records statePath nowNs) := by
  simp only [updateRateState, report, print, ask_bind, only_call, only_ite, only_pure, Records,
    true_and, implies_true, and_true]
  intro _ _ _ _ previous
  split
  · simp [Records, unlockReturning_records]
  · exact storeNow_records

theorem unlockReturning_ends {granted result : Bool} :
    (unlockReturning granted).Ends events result ↔
      events = [⟨.unlock, ()⟩, ⟨.close, ()⟩] ∧ granted = result := by
  simp only [unlockReturning, ask_bind, call_ends, pure_ends]
  constructor
  · intro h
    obtain ⟨_, _, rfl, _, _, rfl, rfl, rfl⟩ := h
    exact ⟨rfl, rfl⟩
  · intro h
    obtain ⟨rfl, rfl⟩ := h
    exact ⟨(), _, rfl, (), _, rfl, rfl, rfl⟩

theorem not_failed_ends_true (machine : Bool) (key value : String) (events : Trace) :
    ¬ (do report machine key value; unlockReturning false : Calls Bool).Ends events true := by
  intro h
  obtain ⟨_, _, _, _, _, hunlock⟩ := bind_ends_iff.mp h
  exact absurd (unlockReturning_ends.mp hunlock).2 (by decide)

theorem storeNow_ends_true :
    (storeNow machine nowNs).Ends events true ↔
      events = [⟨.truncate, true⟩, ⟨.seek, true⟩,
        ⟨.write (decimal nowNs), some (decimal nowNs).length⟩, ⟨.unlock, ()⟩, ⟨.close, ()⟩] := by
  have hfits : ¬ pidBuffer ≤ (decimal nowNs).length := by
    have := length_decimal_lt nowNs
    omega
  have hfailed := not_failed_ends_true machine "status" "rate_state_write_failed"
  simp only [storeNow, if_neg hfits, checked_ends_iff hfailed, unlockReturning_ends, and_true]
  constructor
  · intro h
    obtain ⟨truncated, _, rfl, htruncated, sought, _, rfl, hsought, written, _, rfl, hwritten, rfl⟩ := h
    simp_all
  · intro h
    subst h
    exact ⟨true, _, rfl, by simp, true, _, rfl, by simp, _, _, rfl, by simp, rfl⟩

theorem updateRateState_ends_true {statePath : CString} :
    (updateRateState statePath intervalMs nowNs machine).Ends events true ↔
      ∃ grant : Grant intervalMs nowNs, events = grant.trace statePath := by
  constructor
  · intro h
    obtain ⟨opened, later, rfl, hopen⟩ := ask_ends.mp h
    cases opened with
    | false => simp [report, print, ask_bind, call_ends, pure_ends] at hopen
    | true =>
        obtain ⟨locked, later, rfl, hlock⟩ := ask_ends.mp hopen
        cases locked with
        | false => simp [report, print, call_ends, pure_ends] at hlock
        | true =>
            obtain ⟨previous, later, rfl, hread⟩ := ask_ends.mp hlock
            cases hrecent : tooRecent intervalMs nowNs (previous.map Subtype.val) with
            | some retry =>
                rw [hrecent] at hread
                obtain ⟨_, _, _, _, _, hfailed⟩ := bind_ends_iff.mp hread
                exact absurd hfailed (not_failed_ends_true _ _ _ _)
            | none =>
                rw [hrecent] at hread
                exact ⟨⟨previous, hrecent⟩, by rw [storeNow_ends_true.mp hread]; rfl⟩
  · intro h
    obtain ⟨grant, rfl⟩ := h
    apply ask_leads
    apply ask_leads
    apply ask_leads
    rw [grant.notRecent]
    exact storeNow_ends_true.mpr rfl

end Recording

section Signalling

theorem signalTarget_asks_usr1 {pid' : Nat} :
    (signalTarget machine pid).Asks events (.kill pid' .usr1) ↔ events = [] ∧ pid = pid' := by
  rw [signalTarget, ask_asks_iff]
  constructor
  · intro h
    rcases h with ⟨rfl, hpid⟩ | ⟨killed, later, rfl, h⟩
    · cases hpid
      exact ⟨rfl, rfl⟩
    · exact absurd h (Only.not_asks (show Only Inspects _ by simp [report, print, Inspects]) id)
  · intro h
    obtain ⟨rfl, rfl⟩ := h
    exact .inl ⟨rfl, rfl⟩

theorem nextAction_asks_usr1 {pid' : Nat} :
    (nextAction environment settings pid).Asks events (.kill pid' .usr1) ↔
      ∃ intervalMs nowNs, ∃ grant : Grant intervalMs nowNs,
        loadInterval settings.intervalOverride environment.minIntervalMs = some intervalMs ∧
          pid = pid' ∧ events = ⟨.clock, some nowNs⟩ :: grant.trace settings.statePath := by
  have hfailed : (do report settings.machine "status" "clock_or_interval_failed"; pure 1 :
      Calls Nat).Only Inspects := by
    simp [report, print, Inspects]
  constructor
  · intro h
    simp only [nextAction] at h
    split at h
    · exact absurd h (hfailed.not_asks id)
    · rename_i intervalMs hinterval
      rcases ask_asks_iff.mp h with ⟨_, hclock⟩ | ⟨reading, later, rfl, hread⟩
      · cases hclock
      cases reading with
      | none => exact absurd hread (hfailed.not_asks id)
      | some nowNs =>
          rcases bind_asks_iff.mp hread with hearly | ⟨granted, front, back, rfl, hupdate, hend⟩
          · exact absurd hearly (updateRateState_records.not_asks id)
          cases granted with
          | false => exact absurd hend not_done_asks
          | true =>
              obtain ⟨grant, rfl⟩ := updateRateState_ends_true.mp hupdate
              obtain ⟨rfl, rfl⟩ := signalTarget_asks_usr1.mp hend
              exact ⟨intervalMs, nowNs, grant, hinterval, rfl, by rw [List.append_nil]⟩
  · intro h
    obtain ⟨intervalMs, nowNs, grant, hinterval, rfl, rfl⟩ := h
    simp only [nextAction, hinterval]
    refine ask_asks_iff.mpr (.inr ⟨some nowNs, _, rfl, ?_⟩)
    refine bind_asks_iff.mpr (.inr ⟨true, _, [], (List.append_nil _).symm,
      updateRateState_ends_true.mpr ⟨grant, rfl⟩, ?_⟩)
    exact signalTarget_asks_usr1.mpr ⟨rfl, rfl⟩

/-- Only the action `next` changes anything, and only after a target was found. -/
theorem main_asks_iff {program : CString} {args : List CString} {request : SystemCall}
    (hact : ¬ Looks request) :
    (main program environment args).Asks events request ↔
      ∃ settings, ∃ found : Found settings, ∃ later,
        parseArgs environment.settings args = .settings settings ∧ settings.action = some .next ∧
          events = found.trace ++ later ∧
            (nextAction environment settings found.pid).Asks later request := by
  constructor
  · intro h
    simp only [main] at h
    split at h
    · exact absurd h (((usage_inspects program).bind fun _ => only_pure _).not_asks fun h => hact (.inl h))
    · rename_i settings hparse
      split at h
      · exact absurd h (((usage_inspects program).bind fun _ => only_pure _).not_asks fun h => hact (.inl h))
      · rename_i action haction
        rcases bind_asks_iff.mp h with hearly | ⟨target, front, later, rfl, hload, hend⟩
        · exact absurd hearly ((loadTarget_inspects _ _).not_asks fun h => hact (.inl h))
        cases action with
        | status => exact absurd hend (statusAction_inspects.not_asks fun h => hact (.inl h))
        | next =>
            change Asks (if target.result ≠ .found then _ else _) _ _ at hend
            split_ifs at hend with hresult
            · have hlooks : (do reportTargetError settings.machine target; pure 1 :
                  Calls Nat).Only Inspects :=
                (reportTargetError_inspects target).bind fun _ => only_pure 1
              exact absurd hend (hlooks.not_asks fun h => hact (.inl h))
            · obtain ⟨found, rfl, rfl⟩ := loadTarget_found_iff.mp ⟨hload, not_not.mp hresult⟩
              exact ⟨settings, found, later, hparse, haction, rfl, hend⟩
  · intro h
    obtain ⟨settings, found, later, hparse, haction, rfl, hend⟩ := h
    simp only [main, hparse, haction]
    exact bind_asks_iff.mpr
      (.inr ⟨_, _, _, rfl, (loadTarget_found_iff.mpr ⟨found, rfl, rfl⟩).1, hend⟩)

/-- The calls after which `main` sends SIGUSR1, and to whom. -/
theorem main_asks_usr1_iff (program : CString) (environment : Environment) (args : List CString)
    (events : Trace) (pid : Nat) :
    (main program environment args).Asks events (.kill pid .usr1) ↔
      ∃ settings intervalMs nowNs, ∃ found : Found settings, ∃ grant : Grant intervalMs nowNs,
        parseArgs environment.settings args = .settings settings ∧ settings.action = some .next ∧
          loadInterval settings.intervalOverride environment.minIntervalMs = some intervalMs ∧
            pid = found.pid ∧
              events = found.trace ++ ⟨.clock, some nowNs⟩ :: grant.trace settings.statePath := by
  rw [main_asks_iff not_looks_usr1]
  constructor
  · intro h
    obtain ⟨settings, found, later, hparse, haction, rfl, hnext⟩ := h
    obtain ⟨intervalMs, nowNs, grant, hinterval, rfl, rfl⟩ := nextAction_asks_usr1.mp hnext
    exact ⟨settings, intervalMs, nowNs, found, grant, hparse, haction, hinterval, rfl, rfl⟩
  · intro h
    obtain ⟨settings, intervalMs, nowNs, found, grant, hparse, haction, hinterval, rfl, rfl⟩ := h
    exact ⟨settings, found, _, hparse, haction, rfl,
      nextAction_asks_usr1.mpr ⟨intervalMs, nowNs, grant, hinterval, rfl, rfl⟩⟩

theorem nextAction_acts {request : SystemCall}
    (h : (nextAction environment settings pid).Asks events request) (hact : ¬ Looks request) :
    request = .kill pid .usr1 ∨
      ∃ nowNs later, events = ⟨.clock, some nowNs⟩ :: later ∧
        Records settings.statePath nowNs request := by
  have hfailed : (do report settings.machine "status" "clock_or_interval_failed"; pure 1 :
      Calls Nat).Only Inspects := by
    simp [report, print, Inspects]
  simp only [nextAction] at h
  split at h
  · exact absurd h (hfailed.not_asks fun h => hact (.inl h))
  · rcases ask_asks_iff.mp h with ⟨_, rfl⟩ | ⟨reading, later, rfl, hread⟩
    · exact absurd (.inr rfl) hact
    cases reading with
    | none => exact absurd hread (hfailed.not_asks fun h => hact (.inl h))
    | some nowNs =>
        rcases bind_asks_iff.mp hread with hupdate | ⟨granted, front, back, rfl, _, hend⟩
        · exact .inr ⟨nowNs, later, rfl, updateRateState_records.of_asks hupdate⟩
        cases granted with
        | false => exact absurd hend not_done_asks
        | true =>
            rcases ask_asks_iff.mp hend with ⟨_, rfl⟩ | ⟨killed, last, rfl, hreport⟩
            · exact .inl rfl
            · refine absurd hreport (Only.not_asks (show Only Inspects _ from ?_) fun h => hact (.inl h))
              simp [report, print, Inspects]

/-- Before `main` changes anything it has found its target, which is a single process; and then it
changes nothing but the state file, where only the reading of its clock is written. -/
theorem main_acts {program : CString} {args : List CString} {request : SystemCall}
    (h : (main program environment args).Asks events request) (hact : ¬ Looks request) :
    ∃ settings, ∃ found : Found settings,
      parseArgs environment.settings args = .settings settings ∧ settings.action = some .next ∧
        0 < found.pid ∧ found.pid < 2 ^ 31 ∧ ∃ later, events = found.trace ++ later ∧
          (request = .kill found.pid .usr1 ∨
            ∃ nowNs last, later = ⟨.clock, some nowNs⟩ :: last ∧
              Records settings.statePath nowNs request) := by
  obtain ⟨settings, found, later, hparse, haction, rfl, hnext⟩ := (main_asks_iff hact).mp h
  obtain ⟨hpos, hlt⟩ := parsePid_range found.parsed
  exact ⟨settings, found, hparse, haction, hpos, hlt, later, rfl, nextAction_acts hnext hact⟩

def noEnvironment : Environment := ⟨none, none, none, none⟩

def nextSettings : Settings := { noEnvironment.settings with action := some .next }

/-- The cart runs as process 42. -/
def cartFound : Found nextSettings where
  bytes := ⟨['4', '2', '\n'], by decide⟩
  pid := 42
  probed := .sent
  exe := ⟨nextSettings.expectedExe, by decide +kernel⟩
  nonempty := by decide
  parsed := by decide +kernel
  alive := by decide
  expected := by decide +kernel

theorem main_acts_opensState : ∃ settings, ∃ found : Found settings,
    parseArgs noEnvironment.settings [nextArg] = .settings settings ∧ settings.action = some .next ∧
      0 < found.pid ∧ found.pid < 2 ^ 31 ∧ ∃ later,
        cartFound.trace ++ [⟨.clock, some 1000⟩] = found.trace ++ later ∧
          (SystemCall.openOrCreate nextSettings.statePath = .kill found.pid .usr1 ∨
            ∃ nowNs last, later = ⟨.clock, some nowNs⟩ :: last ∧
              Records settings.statePath nowNs (.openOrCreate nextSettings.statePath)) := by
  have hinterval : loadInterval none none = some 500 := by decide
  have hasks : (nextAction noEnvironment nextSettings 42).Asks [⟨.clock, some 1000⟩]
      (.openOrCreate nextSettings.statePath) := by
    have hload : loadInterval nextSettings.intervalOverride noEnvironment.minIntervalMs = some 500 :=
      hinterval
    simp only [nextAction, hload]
    exact ⟨_, .answered (.stay _)⟩
  have hact : ¬ Looks (.openOrCreate nextSettings.statePath) := by
    simp [Looks, Inspects]
  have hmain : (main [] noEnvironment [nextArg]).Asks (cartFound.trace ++ [⟨.clock, some 1000⟩])
      (.openOrCreate nextSettings.statePath) :=
    (main_asks_iff hact).mpr ⟨nextSettings, cartFound, _, by decide, rfl, rfl, hasks⟩
  exact main_acts hmain hact

end Signalling

section Exiting

/-- The calls that print these texts. -/
def printing (texts : List String) : Trace := texts.map fun text => ⟨.print text, ()⟩

def usageTexts (program : CString) : List String :=
  ["usage: " ++ String.ofList program ++ " status|next [options]\n",
    "  --machine                 stable key=value output\n",
    "  --pidfile PATH            cart PID file\n",
    "  --expected-exe PATH       required cart executable\n",
    "  --state PATH              rate-limit state file\n",
    "  --min-interval-ms MS      minimum interval between next actions\n"]

/-- What `status` says of a target that was found. -/
def statusTexts (machine : Bool) (expectedExe exe : CString) (pid : Nat) (intervalMs : UInt64) :
    List String :=
  let line := reportLine machine
  [line "schema" "1", line "action" "status", line "pid" (toString pid), line "running" "1"] ++
    (if exe ≠ [] then [line "exe" (String.ofList exe)] else []) ++
      [line "expected_exe" (String.ofList expectedExe), line "next_signal" "SIGUSR1",
        line "min_interval_ms" (String.ofList (decimal intervalMs)), line "target_executable_match" "1"]

def triggeredTexts (machine : Bool) (pid : Nat) : List String :=
  [reportLine machine "status" "triggered", reportLine machine "pid" (toString pid),
    reportLine machine "signal" "SIGUSR1"]

/-- A text that is printed on the way. -/
theorem print_ends {α : Type} {text : String} {next : Unit → Calls α} {result : α} :
    (call (.print text) next : Calls α).Ends events result ↔
      ∃ later, events = printing [text] ++ later ∧ (next ()).Ends later result := by
  rw [call_ends]
  constructor
  · intro h
    obtain ⟨_, later, rfl, h⟩ := h
    exact ⟨later, rfl, h⟩
  · intro h
    obtain ⟨later, rfl, h⟩ := h
    exact ⟨(), later, rfl, h⟩

theorem usage_ends {program : CString} {exitStatus : Nat} {result : Nat} :
    (do usage program; pure exitStatus : Calls Nat).Ends events result ↔
      events = printing (usageTexts program) ∧ exitStatus = result := by
  simp only [usage, print, ask_bind, call_bind, print_ends, pure_ends]
  simp [printing, usageTexts]

theorem statusAction_ends_zero :
    (statusAction environment settings target).Ends events 0 ↔
      target.result = .found ∧ ∃ intervalMs,
        loadInterval settings.intervalOverride environment.minIntervalMs = some intervalMs ∧
          events = printing (statusTexts settings.machine settings.expectedExe target.actualExe
            target.pid intervalMs) := by
  cases hinterval : loadInterval settings.intervalOverride environment.minIntervalMs with
  | none =>
      simp [statusAction, hinterval, report, print, ask_bind, call_ends, pure_ends]
  | some intervalMs =>
      by_cases hfound : target.result = .found
      · by_cases hexe : target.actualExe = []
        all_goals
          simp only [statusAction, hinterval, report, print, ask_bind, print_ends, hfound, hexe,
            pure_ends, if_true, ne_eq, not_true_eq_false, if_false, not_false_eq_true]
          simp [printing, statusTexts, hexe]
      · have hfails : (statusAction environment settings target).Yields (· = 1) := by
          have hend : (do reportTargetError settings.machine target; pure 1 : Calls Nat).Yields (· = 1) :=
            Yields.bind fun _ => rfl
          simp only [statusAction, hinterval, report, print, ask_bind, yields_call]
          split_ifs <;> simp [hend]
        simp only [hfound, false_and, iff_false]
        exact fun h => absurd (hfails.of_ends h) (by decide)

theorem signalTarget_ends_zero :
    (signalTarget machine pid).Ends events 0 ↔
      events = ⟨.kill pid .usr1, .sent⟩ :: printing (triggeredTexts machine pid) := by
  have hfailed : (do report machine "status" "signal_failed"; pure 1 : Calls Nat).Yields (· = 1) :=
    Yields.bind fun _ => rfl
  have hnever : ∀ events, ¬ (do report machine "status" "signal_failed"; pure 1 :
      Calls Nat).Ends events 0 := fun _ h => absurd (hfailed.of_ends h) (by decide)
  rw [signalTarget, checked_ends_iff hnever]
  simp only [report, print, ask_bind, print_ends, pure_ends]
  constructor
  · intro h
    obtain ⟨killed, _, rfl, hsent, _, rfl, _, rfl, _, rfl, rfl, _⟩ := h
    rw [not_not.mp hsent]
    rfl
  · intro h
    exact ⟨.sent, _, h, by simp, _, rfl, _, rfl, _, rfl, rfl, trivial⟩

/-- The action `next` succeeds where SIGUSR1 was sent, and only there. -/
theorem nextAction_ends_zero :
    (nextAction environment settings pid).Ends events 0 ↔
      ∃ front, (nextAction environment settings pid).Asks front (.kill pid .usr1) ∧
        events = front ++ ⟨.kill pid .usr1, .sent⟩ :: printing (triggeredTexts settings.machine pid) := by
  have hfailed : (do report settings.machine "status" "clock_or_interval_failed"; pure 1 :
      Calls Nat).Yields (· = 1) :=
    Yields.bind fun _ => rfl
  constructor
  · intro h
    have hends := h
    simp only [nextAction] at hends
    split at hends
    · exact absurd (hfailed.of_ends hends) (by decide)
    · rename_i intervalMs hinterval
      obtain ⟨reading, later, rfl, hread⟩ := ask_ends.mp hends
      cases reading with
      | none => exact absurd (hfailed.of_ends hread) (by decide)
      | some nowNs =>
          obtain ⟨granted, front, back, rfl, hupdate, hend⟩ := bind_ends_iff.mp hread
          cases granted with
          | false => exact absurd (pure_ends.mp hend).2 (by decide)
          | true =>
              obtain ⟨grant, rfl⟩ := updateRateState_ends_true.mp hupdate
              refine ⟨⟨.clock, some nowNs⟩ :: grant.trace settings.statePath, ?_, ?_⟩
              · exact nextAction_asks_usr1.mpr ⟨intervalMs, nowNs, grant, hinterval, rfl, rfl⟩
              · rw [signalTarget_ends_zero.mp hend]
                rfl
  · intro h
    obtain ⟨front, hasks, rfl⟩ := h
    obtain ⟨intervalMs, nowNs, grant, hinterval, _, rfl⟩ := nextAction_asks_usr1.mp hasks
    simp only [nextAction, hinterval]
    apply ask_leads
    exact bind_ends_iff.mpr ⟨true, _, _, rfl, updateRateState_ends_true.mpr ⟨grant, rfl⟩,
      signalTarget_ends_zero.mpr rfl⟩

/-- When the exit status is 0, with everything the program has printed and done then. -/
theorem main_ends_zero_iff (program : CString) (environment : Environment) (args : List CString)
    (events : Trace) :
    (main program environment args).Ends events 0 ↔
      (parseArgs environment.settings args = .usage 0 ∧ events = printing (usageTexts program)) ∨
        ∃ settings, parseArgs environment.settings args = .settings settings ∧
          ((settings.action = some .status ∧ ∃ found : Found settings, ∃ intervalMs,
              loadInterval settings.intervalOverride environment.minIntervalMs = some intervalMs ∧
                events = found.trace ++ printing (statusTexts settings.machine settings.expectedExe
                  settings.expectedExe found.pid intervalMs)) ∨
            ∃ front pid, (main program environment args).Asks front (.kill pid .usr1) ∧
              events = front ++ ⟨.kill pid .usr1, .sent⟩ ::
                printing (triggeredTexts settings.machine pid)) := by
  cases hparse : parseArgs environment.settings args with
  | usage exitStatus =>
      simp only [main, hparse, usage_ends, Parsed.usage.injEq, reduceCtorEq, false_and, exists_false,
        or_false]
      exact and_comm
  | settings settings =>
      simp only [reduceCtorEq, false_and, false_or, Parsed.settings.injEq, exists_eq_left']
      constructor
      · intro h
        simp only [main, hparse] at h
        cases haction : settings.action with
        | none =>
            rw [haction] at h
            exact absurd (usage_ends.mp h).2 (by decide)
        | some action =>
            rw [haction] at h
            obtain ⟨target, front, back, rfl, hload, hend⟩ := bind_ends_iff.mp h
            cases action with
            | status =>
                obtain ⟨hfound, intervalMs, hinterval, rfl⟩ := statusAction_ends_zero.mp hend
                obtain ⟨found, rfl, rfl⟩ := loadTarget_found_iff.mp ⟨hload, hfound⟩
                exact .inl ⟨rfl, found, intervalMs, hinterval, rfl⟩
            | next =>
                change Ends (if target.result ≠ .found then _ else _) _ _ at hend
                split_ifs at hend with hresult
                · have hfailed : (do reportTargetError settings.machine target; pure 1 :
                      Calls Nat).Yields (· = 1) :=
                    Yields.bind fun _ => rfl
                  exact absurd (hfailed.of_ends hend) (by decide)
                · obtain ⟨found, rfl, rfl⟩ := loadTarget_found_iff.mp ⟨hload, not_not.mp hresult⟩
                  obtain ⟨last, hasks, rfl⟩ := nextAction_ends_zero.mp hend
                  refine .inr ⟨found.trace ++ last, found.pid, ?_, (List.append_assoc ..).symm⟩
                  exact (main_asks_iff not_looks_usr1).mpr ⟨settings, found, last, hparse, haction, rfl, hasks⟩
      · intro h
        rcases h with ⟨haction, found, intervalMs, hinterval, rfl⟩ | ⟨front, pid, hasks, rfl⟩
        · simp only [main, hparse, haction]
          exact bind_ends_iff.mpr ⟨_, _, _, rfl, (loadTarget_found_iff.mpr ⟨found, rfl, rfl⟩).1,
            statusAction_ends_zero.mpr ⟨rfl, intervalMs, hinterval, rfl⟩⟩
        · obtain ⟨settings', found, last, hparse', haction, rfl, hnext⟩ := (main_asks_iff not_looks_usr1).mp hasks
          cases hparse.symm.trans hparse'
          obtain ⟨_, _, _, _, rfl, _⟩ := nextAction_asks_usr1.mp hnext
          simp only [main, hparse, haction, List.append_assoc]
          exact bind_ends_iff.mpr ⟨_, _, _, rfl, (loadTarget_found_iff.mpr ⟨found, rfl, rfl⟩).1,
            nextAction_ends_zero.mpr ⟨last, hnext, rfl⟩⟩

end Exiting

end VitaControl

end VitaLinuxPort
