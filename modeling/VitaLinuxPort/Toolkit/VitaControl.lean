import VitaLinuxPort.Lib.CInt
import VitaLinuxPort.Machine
import Mathlib.Logic.Function.Basic

/-!
# `vita-control next`

The `next` action of `toolkit/share/vita-control.c` from the point where its target was found valid:
it loads the interval, reads the clock, asks `update_rate_state`, and if that grants sends SIGUSR1.
Any number of invocations run at the same time and meet in the state file. Each takes the steps of
its own program, one for each call to the system; in between the others move.

A clock reading is never earlier than one taken before it, by whichever invocation.
-/

namespace VitaLinuxPort

def pidBuffer : Nat := 32

/-- `snprintf` with `%llu`. -/
def decimal (n : UInt64) : CString := Nat.toDigits 10 n.toNat

/-- `isspace` in the C locale. -/
def isSpace (c : Char) : Bool := c = ' ' ∨ 9 ≤ c.toNat ∧ c.toNat ≤ 13

/-- What `strtoull` leaves: its value, whether it set `errno`, and the text from `end` on, or nothing
where it found no number and `end` is the text itself. -/
structure StrtoullResult where
  value : UInt64
  errno : Bool
  rest : Option CString

/-- `strtoull(text, &end, 10)`. -/
def strtoull (text : CString) : StrtoullResult :=
  let number := text.dropWhile isSpace
  let unsigned := if number.head? = some '-' ∨ number.head? = some '+' then number.tail else number
  let digits := unsigned.takeWhile Char.isDigit
  let magnitude := Nat.ofDigitChars 10 digits 0
  if digits = [] then ⟨0, false, none⟩
  else if 2 ^ 64 ≤ magnitude then ⟨.ofNat (2 ^ 64 - 1), true, some (unsigned.dropWhile Char.isDigit)⟩
  else
    ⟨if number.head? = some '-' then 0 - .ofNat magnitude else .ofNat magnitude, false,
      some (unsigned.dropWhile Char.isDigit)⟩

def parseUnsigned (text : CString) : Option UInt64 :=
  if text = [] then none
  else
    let parsed := strtoull text
    if parsed.errno ∨ parsed.rest ≠ some [] then none else some parsed.value

def maxIntervalMs : UInt64 := 3600000

/-- `load_interval`, with the value of `VITA_CONTROL_MIN_INTERVAL_MS` if it is set. -/
def loadInterval (override environment : Option CString) : Option UInt64 :=
  (parseUnsigned ((override.or environment).getD "500".toList)).filter (· ≤ maxIntervalMs)

/-- The C string that the read into `previous_text` leaves. -/
def previousText (file : Option CString) : CString :=
  ((file.getD []).take (pidBuffer - 1)).takeWhile (· ≠ '\x00')

/-- The refusing branch of `update_rate_state`, with the milliseconds it advises to wait. -/
def retryMs (intervalMs nowNs : UInt64) (text : CString) : Option UInt64 :=
  match parseUnsigned text with
  | none => none
  | some previousNs =>
      if previousNs ≤ nowNs ∧ nowNs - previousNs < intervalMs * 1000000 then
        some ((intervalMs * 1000000 - (nowNs - previousNs) + 999999) / 1000000)
      else none

/-- How the three calls went that replace the file's contents. -/
inductive StoreOutcome where
  | truncateFailed
  | seekFailed
  | written (count : Option Nat)
  deriving DecidableEq, Repr

def StoreOutcome.contents (text : CString) (file : Option CString) :
    StoreOutcome → Option CString
  | .truncateFailed => file
  | .seekFailed | .written none => some []
  | .written (some count) => some (text.take count)

section Alone

/-- What `update_rate_state` is called with. -/
structure RateCall where
  intervalMs : UInt64
  nowNs : UInt64
  intervalMs_le : intervalMs ≤ maxIntervalMs

inductive RateResult where
  | granted
  | limited (retryMs : UInt64)
  | writeFailed
  deriving DecidableEq, Repr

/-- `update_rate_state` where no other call overlaps and the file operations succeed: the contents that
it leaves, and how it ends. -/
def updateRateState (file : Option CString) (call : RateCall) : CString × RateResult :=
  match retryMs call.intervalMs call.nowNs (previousText file) with
  | some retry => (file.getD [], .limited retry)
  | none =>
      if pidBuffer ≤ (decimal call.nowNs).length then (file.getD [], .writeFailed)
      else (decimal call.nowNs, .granted)

def fileAfter (file : Option CString) (calls : List RateCall) : Option CString :=
  calls.foldl (fun file call => some (updateRateState file call).1) file

def rateResults : Option CString → List RateCall → List RateResult
  | _, [] => []
  | file, call :: calls =>
      (updateRateState file call).2 :: rateResults (some (updateRateState file call).1) calls

open CIntType

/-- `retryMs` once more, with no result where a step of it would wrap. -/
def checkedRetryMs (intervalMs nowNs : UInt64) (text : CString) : Option (Option Int) :=
  match parseUnsigned text with
  | none => some none
  | some previousNs =>
      if previousNs ≤ nowNs then do
        let elapsedNs ← uint64.sub nowNs.toNat previousNs.toNat
        let intervalNs ← uint64.mul intervalMs.toNat 1000000
        if elapsedNs < intervalNs then do
          let left ← uint64.sub intervalNs elapsedNs
          let rounded ← uint64.add left 999999
          let retry ← uint64.div rounded 1000000
          return some retry
        else return none
      else some none

end Alone

/-- Where in the program an invocation is. -/
inductive ControlPoint where
  | clock
  | opening (intervalMs nowNs : UInt64)
  | locking (intervalMs nowNs : UInt64)
  | reading (intervalMs nowNs : UInt64)
  | storing (nowNs : UInt64)
  | unlocking (granted : Bool)
  | signalling
  | exited (status : Nat)
  deriving DecidableEq, Repr

inductive ControlAnswer where
  | clock (reading : Option UInt64)
  | opened (ok : Bool)
  | locked (ok : Bool)
  | contents (ok : Bool)
  | stored (outcome : StoreOutcome)
  | unlocked
  | killed (ok : Bool)
  deriving DecidableEq, Repr

/-- What the invocations of one boot share: the interval they are given and the cart's pid. -/
structure ControlConfig where
  override : Option CString
  environment : Option CString
  pid : Nat

/-- `granted` lists the invocations for which `update_rate_state` returned 0, with the timestamps
they recorded, `signalled` those that sent SIGUSR1. Neither is read by the program. -/
structure ControlSystem (ι : Type*) where
  clockNs : UInt64
  file : Option CString
  holder : Option ι
  point : ι → ControlPoint
  report : ι → List (String × String)
  granted : List (ι × UInt64)
  signalled : List ι

namespace ControlSystem

variable {ι : Type*}

def start (file : Option CString) (clockNs : UInt64) : ControlSystem ι where
  clockNs := clockNs
  file := file
  holder := none
  point := fun _ => .clock
  report := fun _ => []
  granted := []
  signalled := []

variable [DecidableEq ι]

/-- `p` goes on to `next` after it reported `lines`. -/
abbrev move (s : ControlSystem ι) (p : ι) (next : ControlPoint) (lines : List (String × String)) :
    ControlSystem ι :=
  { s with
    point := Function.update s.point p next
    report := Function.update s.report p (s.report p ++ lines) }

/-- The next step of `p` under this answer, if it is where the answer belongs. -/
def next (config : ControlConfig) (s : ControlSystem ι) (p : ι) (answer : ControlAnswer) :
    Option (ControlSystem ι) :=
  match s.point p, answer with
  | .clock, .clock reading =>
      match loadInterval config.override config.environment, reading with
      | some intervalMs, some nowNs =>
          if s.clockNs ≤ nowNs then
            some { s.move p (.opening intervalMs nowNs) [] with clockNs := nowNs }
          else none
      | _, _ => some (s.move p (.exited 1) [("status", "clock_or_interval_failed")])
  | .opening intervalMs nowNs, .opened ok =>
      -- `O_CREAT`
      if ok then some { s.move p (.locking intervalMs nowNs) [] with file := some (s.file.getD []) }
      else some (s.move p (.exited 1) [("status", "rate_state_unavailable")])
  | .locking intervalMs nowNs, .locked ok =>
      if ok then
        if s.holder = none then
          some { s.move p (.reading intervalMs nowNs) [] with holder := some p }
        else none
      else some (s.move p (.exited 1) [("status", "rate_state_unavailable")])
  | .reading intervalMs nowNs, .contents ok =>
      match if ok then retryMs intervalMs nowNs (previousText s.file) else none with
      | some retry =>
          some (s.move p (.unlocking false)
            [("status", "rate_limited"), ("retry_after_ms", .ofList (decimal retry))])
      | none => some (s.move p (.storing nowNs) [])
  | .storing nowNs, .stored outcome =>
      if pidBuffer ≤ (decimal nowNs).length then
        some (s.move p (.unlocking false) [("status", "rate_state_write_failed")])
      else if outcome = .written (some (decimal nowNs).length) then
        some { s.move p (.unlocking true) [] with
          file := outcome.contents (decimal nowNs) s.file
          granted := s.granted ++ [(p, nowNs)] }
      else
        some { s.move p (.unlocking false) [("status", "rate_state_write_failed")] with
          file := outcome.contents (decimal nowNs) s.file }
  | .unlocking granted, .unlocked =>
      some { s.move p (if granted then .signalling else .exited 1) [] with holder := none }
  | .signalling, .killed ok =>
      if ok then
        some { s.move p (.exited 0)
            [("status", "triggered"), ("pid", toString config.pid), ("signal", "SIGUSR1")] with
          signalled := s.signalled ++ [p] }
      else some (s.move p (.exited 1) [("status", "signal_failed")])
  | _, _ => none

def Steps (config : ControlConfig) (s : ControlSystem ι) (event : ι × ControlAnswer)
    (t : ControlSystem ι) : Prop :=
  s.next config event.1 event.2 = some t

end ControlSystem

end VitaLinuxPort
