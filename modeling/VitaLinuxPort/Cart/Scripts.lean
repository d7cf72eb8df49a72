import Mathlib.Data.List.Basic

/-!
# The wrapper scripts

`cart/scripts/start-demo-cart.sh` and `cart/scripts/stop-demo-cart.sh`, one step for each command,
over the files they share. Between two commands the renderer may die or draw, and a signal may
arrive; the shell acts on a signal when the command that runs has ended. One script runs at a time.

`frameBytes` is `FRAME_BYTES`, which both scripts compare sizes with.
-/

namespace VitaLinuxPort

/-- `bs=4096 count=900`. -/
def ddBytes : Nat := 4096 * 900

/-- What the renderer maps of the framebuffer, 1280 by 720 pixels of four bytes. -/
def mappedBytes : Nat := 1280 * 720 * 4

/-- The framebuffer after data was written to it from its first byte on. -/
def overwrite (fb data : List UInt8) : List UInt8 :=
  data.take fb.length ++ fb.drop data.length

inductive ScriptName where
  | start
  | stop
  deriving DecidableEq, Repr

/-- The commands of `start-demo-cart.sh` up to its exit, in the order of the source: the first
`cart_pid_matches` and the message that the cart is running already, `[ -x "$BIN" ]`, the `rm` of
`PID` and the markers, the `dd` to `SAVE_TMP` and the test of its size, the `mv`, the test of `BIND`,
`: > "$MARK"`, `printf 0 > "$BIND"`, `start-stop-daemon -S`, the second `cart_pid_matches` and the
`rm` of `PID` where it fails, `started=1`, and the end. -/
inductive StartPoint where
  | matching
  | announce
  | executable
  | discard
  | capture
  | measure
  | publish
  | bound
  | mark
  | unbind
  | launch
  | stayed
  | dropPid
  | adopt
  | leave
  deriving DecidableEq, Repr

/-- The commands of `cleanup` and the functions it calls: the `rm` of `SAVE_TMP`, the test that `SAVE`
exists, `save_has_expected_size`, the `dd` to `FB`, the `rm` of `SAVE`, the test that `MARK` exists,
`printf 1 > "$BIND"` with the test before it, and the `rm` of `MARK`. -/
inductive CleanupPoint where
  | dropTmp
  | saved
  | sized
  | restore
  | dropSave
  | marked
  | rebind
  | dropMark
  deriving DecidableEq, Repr

/-- The commands of `stop-demo-cart.sh`: the first `cart_pid_matches`, `start-stop-daemon -K -s TERM`,
the wait with the value of `n`, `cart_pid_matches` after it, the `rm` of `PID`, what `cleanup` has too,
and `exit "$status"`. -/
inductive StopPoint where
  | matching
  | terminate
  | waiting (n : Nat)
  | waited
  | retire
  | saved
  | sized
  | restore
  | dropSave
  | marked
  | rebind
  | dropMark
  | leave
  deriving DecidableEq, Repr

/-- The script that runs, or the last one to run and its exit status. -/
inductive Script where
  | none
  | start (point : StartPoint) (started : Bool)
  | cleanup (point : CleanupPoint) (started : Bool) (status : Nat)
  | stop (point : StopPoint) (status : Nat)
  | finished (name : ScriptName) (status : Nat)
  deriving DecidableEq, Repr

/-- The files, the console's bind flag, and the renderer while it is alive. -/
structure CartBox where
  fb : List UInt8
  bind : Bool
  pid : Option Nat
  save : Option (List UInt8)
  saveTmp : Option (List UInt8)
  mark : Bool
  renderer : Option Nat
  script : Script
  deriving DecidableEq, Repr

/-- How a command ends: a failing `dd` has copied some bytes, `start-stop-daemon -S` has started a
process. -/
inductive Reply where
  | ok
  | failed (copied : Nat)
  | forked (pid : Nat)
  deriving DecidableEq, Repr

/-- The bytes that come through a `dd` ending like this. -/
def Reply.copied : Reply → Nat
  | .ok => ddBytes
  | .failed copied => copied
  | .forked _ => 0

inductive Signal where
  | hup
  | int
  | term
  deriving DecidableEq, Repr

/-- The status of a shell that such a signal ends, which is also what the traps exit with. -/
def Signal.status : Signal → Nat
  | .hup => 129
  | .int => 130
  | .term => 143

/-- A script is begun, its next command ends, a signal arrives; the renderer dies or writes pixels from
the first byte of its mapping on. -/
inductive BoxEvent where
  | run (name : ScriptName)
  | go (reply : Reply)
  | signal (signal : Signal)
  | die
  | draw (pixels : List UInt8)
  deriving DecidableEq, Repr

namespace CartBox

variable (frameBytes : Nat)

abbrev goto (s : CartBox) (script : Script) : CartBox := { s with script := script }

/-- `cart_pid_matches`: `PID` names the renderer, and the renderer runs. -/
def cartPidMatches (s : CartBox) : Bool := s.pid.isSome && s.renderer == s.pid

/-- `save_has_expected_size`, where reading the file succeeds. -/
def saveHasExpectedSize (s : CartBox) : Bool := s.save.any fun save => save.length == frameBytes

/-- The `dd` from `SAVE` to `FB`, of which `copied` bytes come through. -/
abbrev writeBack (s : CartBox) (copied : Nat) : CartBox :=
  { s with fb := overwrite s.fb (((s.save.getD []).take ddBytes).take copied) }

/-- `exit status`, which runs `cleanup`. -/
abbrev exit (s : CartBox) (started : Bool) (status : Nat) : CartBox :=
  s.goto (.cleanup .dropTmp started status)

/-- A command of `start-demo-cart.sh`. Under `set -e` one that fails ends the script; an `rm` that
fails leaves its files. -/
def startStep (s : CartBox) (started : Bool) : StartPoint → Reply → CartBox
  | .matching, _ =>
      if s.cartPidMatches then s.goto (.start .announce started)
      else s.goto (.start .executable started)
  | .announce, _ => s.goto (.start .adopt started)
  | .executable, .ok => s.goto (.start .discard started)
  | .discard, .ok =>
      { s.goto (.start .capture started) with pid := none, mark := false, saveTmp := none }
  | .capture, .ok => { s.goto (.start .measure started) with saveTmp := some (s.fb.take ddBytes) }
  | .capture, reply =>
      { s.exit started 1 with saveTmp := some ((s.fb.take ddBytes).take reply.copied) }
  | .measure, .ok =>
      if s.saveTmp.any fun tmp => tmp.length == frameBytes then s.goto (.start .publish started)
      else s.exit started 1
  | .publish, .ok => { s.goto (.start .bound started) with save := s.saveTmp, saveTmp := none }
  | .bound, .ok =>
      if s.bind then s.goto (.start .mark started) else s.goto (.start .launch started)
  | .bound, _ => s.goto (.start .launch started)
  | .mark, .ok => { s.goto (.start .unbind started) with mark := true }
  | .unbind, .ok => { s.goto (.start .launch started) with bind := false }
  | .launch, .forked pid =>
      { s.goto (.start .stayed started) with pid := some pid, renderer := some pid }
  | .stayed, _ =>
      if s.cartPidMatches then s.goto (.start .adopt started) else s.goto (.start .dropPid started)
  | .dropPid, .ok => { s.exit started 1 with pid := none }
  | .adopt, _ => s.goto (.start .leave true)
  | .leave, _ => s.exit started 0
  | .executable, _ | .discard, _ | .measure, _ | .publish, _ | .mark, _ | .unbind, _
  | .launch, _ | .dropPid, _ => s.exit started 1

/-- A command of `cleanup`. -/
def cleanupStep (s : CartBox) (started : Bool) (status : Nat) : CleanupPoint → Reply → CartBox
  | .dropTmp, .ok =>
      if started then { s.goto (.finished .start status) with saveTmp := none }
      else { s.goto (.cleanup .saved started status) with saveTmp := none }
  | .dropTmp, _ => s.goto (.finished .start 1)
  | .saved, _ =>
      if s.save.isSome then s.goto (.cleanup .sized started status)
      else s.goto (.cleanup .marked started status)
  | .sized, .ok =>
      if s.saveHasExpectedSize frameBytes then s.goto (.cleanup .restore started status)
      else s.goto (.cleanup .marked started 1)
  | .sized, _ => s.goto (.cleanup .marked started 1)
  | .restore, .ok => (s.writeBack ddBytes).goto (.cleanup .dropSave started status)
  | .restore, reply => (s.writeBack reply.copied).goto (.cleanup .marked started 1)
  | .dropSave, .ok => { s.goto (.cleanup .marked started status) with save := none }
  | .dropSave, _ => s.goto (.cleanup .marked started 1)
  | .marked, _ =>
      if s.mark then s.goto (.cleanup .rebind started status) else s.goto (.finished .start status)
  | .rebind, .ok => { s.goto (.cleanup .dropMark started status) with bind := true }
  | .rebind, _ => s.goto (.finished .start 1)
  | .dropMark, .ok => { s.goto (.finished .start status) with mark := false }
  | .dropMark, _ => s.goto (.finished .start 1)

/-- A command of `stop-demo-cart.sh`, which goes on after one that fails. -/
def stopStep (s : CartBox) (status : Nat) : StopPoint → Reply → CartBox
  | .matching, _ =>
      if s.cartPidMatches then s.goto (.stop .terminate status) else s.goto (.stop .retire status)
  | .terminate, reply =>
      if s.cartPidMatches ∧ reply = .ok then s.goto (.stop (.waiting 0) status)
      else s.goto (.stop (.waiting 0) 1)
  | .waiting n, _ =>
      if n < 30 ∧ s.cartPidMatches then s.goto (.stop (.waiting (n + 1)) status)
      else s.goto (.stop .waited status)
  | .waited, _ =>
      if s.cartPidMatches then s.goto (.stop .saved 1) else s.goto (.stop .retire status)
  | .retire, .ok => { s.goto (.stop .saved status) with pid := none }
  | .retire, _ => s.goto (.stop .saved status)
  | .saved, _ =>
      if s.save.isSome then s.goto (.stop .sized status) else s.goto (.stop .marked status)
  | .sized, .ok =>
      if s.saveHasExpectedSize frameBytes then s.goto (.stop .restore status)
      else s.goto (.stop .marked 1)
  | .sized, _ => s.goto (.stop .marked 1)
  | .restore, .ok => (s.writeBack ddBytes).goto (.stop .dropSave status)
  | .restore, reply => (s.writeBack reply.copied).goto (.stop .marked 1)
  | .dropSave, .ok => { s.goto (.stop .marked status) with save := none }
  | .dropSave, _ => s.goto (.stop .marked status)
  | .marked, _ =>
      if s.mark then s.goto (.stop .rebind status) else s.goto (.stop .leave status)
  | .rebind, .ok => { s.goto (.stop .dropMark status) with bind := true }
  | .rebind, _ => s.goto (.stop .leave 1)
  | .dropMark, .ok => { s.goto (.stop .leave status) with mark := false }
  | .dropMark, _ => s.goto (.stop .leave status)
  | .leave, _ => s.goto (.finished .stop status)

/-- What an event leads to, if it can happen. A signal finds the traps of `start-demo-cart.sh` set
until `cleanup` resets them; where none is set it ends the script. -/
def next (s : CartBox) : BoxEvent → Option CartBox
  | .run name =>
      match s.script, name with
      | .none, .start | .finished _ _, .start => some (s.goto (.start .matching false))
      | .none, .stop | .finished _ _, .stop => some (s.goto (.stop .matching 0))
      | _, _ => none
  | .go reply =>
      match s.script with
      | .start point started => some (s.startStep frameBytes started point reply)
      | .cleanup point started status => some (s.cleanupStep frameBytes started status point reply)
      | .stop point status => some (s.stopStep frameBytes status point reply)
      | _ => none
  | .signal signal =>
      match s.script with
      | .start _ started => some (s.exit started signal.status)
      | .cleanup _ _ _ => some (s.goto (.finished .start signal.status))
      | .stop _ _ => some (s.goto (.finished .stop signal.status))
      | _ => none
  | .die => if s.renderer.isSome then some { s with renderer := none } else none
  | .draw pixels =>
      if s.renderer.isSome ∧ pixels.length ≤ mappedBytes then
        some { s with fb := overwrite s.fb pixels }
      else none

def Steps (s : CartBox) (event : BoxEvent) (t : CartBox) : Prop :=
  s.next frameBytes event = some t

end CartBox

end VitaLinuxPort
