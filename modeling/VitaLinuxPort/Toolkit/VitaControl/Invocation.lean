import VitaLinuxPort.Lib.Program
import VitaLinuxPort.Toolkit.VitaControl
import Mathlib.Data.List.DropRight

/-!
# One invocation of `vita-control`

The whole of `toolkit/share/vita-control.c` as the calls it makes: reading the command line, finding
the cart through its pidfile and `/proc`, and the two actions. What the other processes do meanwhile
is in the answers.
-/

namespace VitaLinuxPort

namespace VitaControl

def smallBuffer : Nat := 256

def int32Max : UInt64 := 2147483647

inductive Signal where
  /-- Signal 0, which `kill` only checks for. -/
  | probe
  | usr1
  deriving DecidableEq, Repr

inductive KillResult where
  | sent
  /-- `EPERM`. -/
  | denied
  | failed
  deriving DecidableEq, Repr

inductive SystemCall where
  | openReadOnly (path : CString)
  /-- `O_RDWR | O_CREAT`, mode 0600. -/
  | openOrCreate (path : CString)
  | lock
  | unlock
  | read (count : Nat)
  | truncate
  | seek
  | write (text : CString)
  | close
  | kill (pid : Nat) (signal : Signal)
  | readlink (path : CString) (count : Nat)
  | clock
  | print (text : String)
  deriving DecidableEq, Repr

/-- What a call returns. A read that failed has no bytes; one at the end of the file has none of them. -/
abbrev SystemCall.Answer : SystemCall → Type
  | .openReadOnly _ | .openOrCreate _ | .lock | .truncate | .seek => Bool
  | .unlock | .close | .print _ => Unit
  | .read count | .readlink _ count => Option { bytes : CString // bytes.length ≤ count }
  | .write _ => Option Nat
  | .kill _ _ => KillResult
  | .clock => Option UInt64

abbrev Calls (α : Type) : Type := Program SystemCall SystemCall.Answer α

abbrev Trace : Type := List (Program.Event SystemCall.Answer)

abbrev ask (request : SystemCall) : Calls request.Answer := Program.ask request

def print (text : String) : Calls Unit := ask (.print text)

def reportLine (machine : Bool) (key value : String) : String :=
  if machine then key ++ "=" ++ value ++ "\n" else key ++ ": " ++ value ++ "\n"

def report (machine : Bool) (key value : String) : Calls Unit := print (reportLine machine key value)

def usage (program : CString) : Calls Unit := do
  print ("usage: " ++ String.ofList program ++ " status|next [options]\n")
  print "  --machine                 stable key=value output\n"
  print "  --pidfile PATH            cart PID file\n"
  print "  --expected-exe PATH       required cart executable\n"
  print "  --state PATH              rate-limit state file\n"
  print "  --min-interval-ms MS      minimum interval between next actions\n"

/-- The C string in a buffer. -/
def cString (bytes : CString) : CString := bytes.takeWhile (· ≠ '\x00')

def isTrailing (c : Char) : Bool := c = '\n' ∨ c = '\r' ∨ c = ' ' ∨ c = '\t'

/-- The C string that `read_small_file` makes of the bytes it read. -/
def smallText (bytes : CString) : CString := cString (bytes.rdropWhile isTrailing)

def readSmallFile (path : CString) (capacity : Nat) : Calls (Option CString) := do
  if ← ask (.openReadOnly path) then
    let bytes ← ask (.read (capacity - 1))
    ask .close
    match bytes with
    | none | some ⟨[], _⟩ => return none
    | some ⟨bytes, _⟩ => return some (smallText bytes)
  else return none

/-- What `load_target` returns: 0, -2, -3, -4 and -5. -/
inductive TargetResult where
  | found
  | invalidPidfile
  | notRunning
  | inspectionFailed
  | mismatch
  deriving DecidableEq, Repr

/-- The result of `load_target`, with what it left in `pid` and `actual_exe`. -/
structure Target where
  result : TargetResult
  pid : Nat
  actualExe : CString
  deriving DecidableEq, Repr

/-- `/proc/%ld/exe`. -/
def procExe (pid : Nat) : CString := ("/proc/" ++ toString pid ++ "/exe").toList

def parsePid (text : CString) : Option Nat :=
  match parseUnsigned text with
  | none => none
  | some parsed => if parsed = 0 ∨ int32Max < parsed then none else some parsed.toNat

def loadTarget (pidfile expectedExe : CString) : Calls Target := do
  let text ← readSmallFile pidfile pidBuffer
  match text.bind parsePid with
  | none => return ⟨.invalidPidfile, 0, []⟩
  | some pid =>
      let probed ← ask (.kill pid .probe)
      if probed = .failed then return ⟨.notRunning, pid, []⟩
      else
        match ← ask (.readlink (procExe pid) (smallBuffer - 1)) with
        | none => return ⟨.inspectionFailed, pid, []⟩
        | some ⟨exe, _⟩ =>
            if cString exe = expectedExe then return ⟨.found, pid, cString exe⟩
            else return ⟨.mismatch, pid, cString exe⟩

def reportTargetError (machine : Bool) (target : Target) : Calls Unit :=
  match target.result with
  | .invalidPidfile => report machine "status" "invalid_pidfile"
  | .notRunning => report machine "status" "target_not_running"
  | .mismatch => do
      report machine "status" "target_executable_mismatch"
      report machine "actual_exe" (String.ofList target.actualExe)
  | _ => report machine "status" "target_inspection_failed"

/-- What stands after the label `unlock`. -/
def unlockReturning (granted : Bool) : Calls Bool := do
  ask .unlock
  ask .close
  return granted

/-- The end of `update_rate_state`, which puts the new timestamp in the file. -/
def storeNow (machine : Bool) (nowNs : UInt64) : Calls Bool := do
  let failed : Calls Bool := do
    report machine "status" "rate_state_write_failed"
    unlockReturning false
  if pidBuffer ≤ (decimal nowNs).length then failed
  else if !(← ask .truncate) then failed
  else if !(← ask .seek) then failed
  else if (← ask (.write (decimal nowNs))) ≠ some (decimal nowNs).length then failed
  else unlockReturning true

/-- The milliseconds left to wait after the timestamp that was read, if it is too recent. -/
def tooRecent (intervalMs nowNs : UInt64) (bytes : Option CString) : Option UInt64 :=
  match bytes with
  | none | some [] => none
  | some bytes => retryMs intervalMs nowNs (cString bytes)

/-- `update_rate_state`, true where the C function returns 0. -/
def updateRateState (statePath : CString) (intervalMs nowNs : UInt64) (machine : Bool) :
    Calls Bool := do
  if ← ask (.openOrCreate statePath) then
    if ← ask .lock then
      let previous ← ask (.read (pidBuffer - 1))
      match tooRecent intervalMs nowNs (previous.map Subtype.val) with
      | some retry =>
          report machine "status" "rate_limited"
          report machine "retry_after_ms" (String.ofList (decimal retry))
          unlockReturning false
      | none => storeNow machine nowNs
    else
      ask .close
      report machine "status" "rate_state_unavailable"
      return false
  else
    report machine "status" "rate_state_unavailable"
    return false

inductive Action where
  | status
  | next
  deriving DecidableEq, Repr

/-- The variables of `main` that the command line sets. -/
structure Settings where
  action : Option Action
  pidfile : CString
  expectedExe : CString
  statePath : CString
  intervalOverride : Option CString
  machine : Bool
  deriving DecidableEq, Repr

structure Environment where
  pidfile : Option CString
  expectedExe : Option CString
  state : Option CString
  minIntervalMs : Option CString

def Environment.settings (environment : Environment) : Settings where
  action := none
  pidfile := environment.pidfile.getD "/run/pstv-demo-cart.pid".toList
  expectedExe := environment.expectedExe.getD "/usr/local/bin/pstv-demo-cart".toList
  statePath := environment.state.getD "/run/vita-control.next".toList
  intervalOverride := none
  machine := false

def statusArg : CString := "status".toList

def nextArg : CString := "next".toList

def machineArg : CString := "--machine".toList

def pidfileArg : CString := "--pidfile".toList

def expectedExeArg : CString := "--expected-exe".toList

def stateArg : CString := "--state".toList

def minIntervalArg : CString := "--min-interval-ms".toList

def helpArg : CString := "--help".toList

def shortHelpArg : CString := "-h".toList

/-- How the loop over the arguments ends: in the usage text, with this exit status, or by itself. -/
inductive Parsed where
  | usage (exitStatus : Nat)
  | settings (settings : Settings)
  deriving DecidableEq, Repr

def parseArgs (settings : Settings) : List CString → Parsed
  | [] => .settings settings
  | arg :: rest =>
      if arg = statusArg ∨ arg = nextArg then
        if settings.action ≠ none then .usage 2
        else
          parseArgs
            { settings with action := some (if arg = statusArg then .status else .next) } rest
      else if arg = machineArg then parseArgs { settings with machine := true } rest
      else if arg = pidfileArg ∨ arg = expectedExeArg ∨ arg = stateArg ∨ arg = minIntervalArg then
        match rest with
        | [] => .usage 2
        | value :: rest =>
            if arg = pidfileArg then parseArgs { settings with pidfile := value } rest
            else if arg = expectedExeArg then parseArgs { settings with expectedExe := value } rest
            else if arg = stateArg then parseArgs { settings with statePath := value } rest
            else parseArgs { settings with intervalOverride := some value } rest
      else if arg = helpArg ∨ arg = shortHelpArg then .usage 0
      else .usage 2

/-- The action `status`, once the target is looked up. -/
def statusAction (environment : Environment) (settings : Settings) (target : Target) :
    Calls Nat := do
  match loadInterval settings.intervalOverride environment.minIntervalMs with
  | none =>
      report settings.machine "status" "invalid_interval"
      return 1
  | some intervalMs =>
      report settings.machine "schema" "1"
      report settings.machine "action" "status"
      report settings.machine "pid" (toString target.pid)
      report settings.machine "running" (if target.result = .found then "1" else "0")
      if target.actualExe ≠ [] then
        report settings.machine "exe" (String.ofList target.actualExe)
      report settings.machine "expected_exe" (String.ofList settings.expectedExe)
      report settings.machine "next_signal" "SIGUSR1"
      report settings.machine "min_interval_ms" (String.ofList (decimal intervalMs))
      if target.result ≠ .found then
        reportTargetError settings.machine target
        return 1
      else
        report settings.machine "target_executable_match" "1"
        return 0

/-- The end of `main`: the signal to a target that was found and may have it. -/
def signalTarget (machine : Bool) (pid : Nat) : Calls Nat := do
  let killed ← ask (.kill pid .usr1)
  if killed ≠ .sent then
    report machine "status" "signal_failed"
    return 1
  else
    report machine "status" "triggered"
    report machine "pid" (toString pid)
    report machine "signal" "SIGUSR1"
    return 0

/-- The action `next`, once a target is found. -/
def nextAction (environment : Environment) (settings : Settings) (pid : Nat) : Calls Nat := do
  let failed : Calls Nat := do
    report settings.machine "status" "clock_or_interval_failed"
    return 1
  match loadInterval settings.intervalOverride environment.minIntervalMs with
  | none => failed
  | some intervalMs =>
      match ← ask .clock with
      | none => failed
      | some nowNs =>
          if ← updateRateState settings.statePath intervalMs nowNs settings.machine then
            signalTarget settings.machine pid
          else return 1

/-- `main`, with `argv[0]` and the rest of its arguments. -/
def main (program : CString) (environment : Environment) (args : List CString) : Calls Nat := do
  match parseArgs environment.settings args with
  | .usage exitStatus =>
      usage program
      return exitStatus
  | .settings settings =>
      match settings.action with
      | none =>
          usage program
          return 2
      | some action =>
          let target ← loadTarget settings.pidfile settings.expectedExe
          match action with
          | .status => statusAction environment settings target
          | .next =>
              if target.result ≠ .found then
                reportTargetError settings.machine target
                return 1
              else nextAction environment settings target.pid

end VitaControl

end VitaLinuxPort
