import VitaLinuxPort.Lib.Program
import VitaLinuxPort.Lib.Text
import VitaLinuxPort.Machine
import Mathlib.Logic.Function.Basic

/-!
# Saving and restoring the framebuffer

`toolkit/bin/vita-fb` as the commands it runs. The arithmetic of the shell is that of the device's ash: 64
bits, and a number that begins with a zero is octal. While a capture is made the signals it traps come in
between two commands, and the script goes on after the trap's action.

`World.step` says what the commands do. The framebuffer is a device, not one of the files; a command that
fails may have done a part of its work.
-/

namespace VitaLinuxPort

namespace VitaFb

/-! ### The commands -/

/-- What `read_value` has to go on: the file is not readable, `tr` fails after it printed a text, or
prints the text and succeeds. -/
inductive Reading where
  | unreadable
  | failed (text : CString)
  | value (text : CString)
  deriving DecidableEq

/-- `read` is `[ -r file ]` and then `tr -d '\r\n'`, `count` is `wc -c | tr -d ' '`, and `signalled` whether
a trapped signal has come in. `capture` and `show` are the two uses of `dd`, with blocks of 4096 bytes. -/
inductive Command where
  | read (path : CString)
  | isPresent (path : CString)
  | isReadable (path : CString)
  | count (path : CString)
  | capture (target : CString) (blocks : Nat)
  | show (source : CString) (blocks : Nat)
  | rename (source target : CString)
  | remove (path : CString)
  | bind (value : CString)
  | signalled
  | print (text : CString)
  | complain (text : CString)
  deriving DecidableEq

/-- The count is `none` where the file cannot be opened; the others answer whether they succeed. -/
abbrev Command.Answer : Command → Type
  | .read _ => Reading
  | .count _ => Option Nat
  | .print _ | .complain _ => Unit
  | _ => Bool

abbrev Calls (α : Type) : Type := Program Command Command.Answer α

abbrev Trace : Type := List (Program.Event Command.Answer)

abbrev ask (command : Command) : Calls command.Answer := Program.ask command

/-- The environment: `VITA_FB_ROOT`, `VITA_FB_DEVICE`, `VITA_FB_BIND` and the process id. -/
structure Env where
  root : CString
  device : CString
  bind : CString
  pid : CString

def defaults (pid : CString) : Env where
  root := ['/']
  device := "/dev/fb0".toList
  bind := "/sys/class/vtconsole/vtcon1/bind".toList
  pid

def rootPath (env : Env) (path : CString) : CString :=
  match path with
  | '/' :: _ => env.root ++ path
  | _ => env.root ++ '/' :: path

/-! ### Numbers -/

def validNumber (text : CString) : Bool := text ≠ [] ∧ text.all Char.isDigit

/-- A string of digits in an arithmetic expression, where it is a number. -/
def shellNumber (digits : CString) : Option Int :=
  let word (base : Nat) : Int := (min (Nat.ofDigitChars base digits 0) (2 ^ 64 - 1) : Nat)
  match digits with
  | '0' :: _ => if digits.all fun c => c < '8' then some ((word 8).bmod (2 ^ 64)) else none
  | _ => some ((word 10).bmod (2 ^ 64))

/-- `$((a * b))`. -/
def shellProduct (a b : CString) : Option Int := do
  let x ← shellNumber a
  let y ← shellNumber b
  return (x * y).bmod (2 ^ 64)

/-! ### The geometry -/

structure Metadata where
  geometry : CString
  width : CString
  height : CString
  bits : CString
  stride : CString
  bind : CString
  frameBytes : Nat
  deriving DecidableEq

/-- How `load_metadata` ends the script: `fail`, a value that is not read (`set -e`), or an expansion that
is an error. -/
inductive Stop where
  | fail (message : CString)
  | unread
  | arithmetic
  deriving DecidableEq

/-- What follows the first separator. -/
def afterFirst (sep : Char) (text : CString) : CString := (text.dropWhile (· ≠ sep)).tail

/-- The checks of `load_metadata`. -/
def checkMetadata (geometry bits stride bind : CString) : Except Stop Metadata :=
  let width := Text.beforeLast ',' geometry
  let height := afterFirst ',' geometry
  if ',' ∉ geometry then .error (.fail ("invalid framebuffer geometry: ".toList ++ geometry))
  else if !validNumber width then .error (.fail ("invalid framebuffer width: ".toList ++ width))
  else if !validNumber height then .error (.fail ("invalid framebuffer height: ".toList ++ height))
  else if !validNumber bits then .error (.fail ("invalid framebuffer bits per pixel: ".toList ++ bits))
  else if !validNumber stride then .error (.fail ("invalid framebuffer stride: ".toList ++ stride))
  else if bind ≠ ['0'] ∧ bind ≠ ['1'] then
    .error (.fail ("invalid fbcon bind state: ".toList ++ bind))
  else
    match shellProduct stride height with
    | none => .error .arithmetic
    | some bytes =>
        if ¬ 0 < bytes then .error (.fail "framebuffer size is zero".toList)
        else if bytes % 4096 ≠ 0 then
          .error (.fail ("framebuffer size is not 4096-byte aligned: ".toList ++
            Nat.toDigits 10 bytes.toNat))
        else .ok { geometry, width, height, bits, stride, bind, frameBytes := bytes.toNat }

def Metadata.blocks (m : Metadata) : Nat := m.frameBytes / 4096

section Script

variable (env : Env)

def readValue (path : CString) : Calls Reading := do
  match ← ask (.read (rootPath env path)) with
  | .unreadable => return .value "UNKNOWN".toList
  | reading => return reading

/-- The text of a value in the argument of another command, where the status is lost. -/
def substituted : Reading → CString
  | .unreadable => []
  | .failed text => text
  | .value text => text

def fail (message : CString) : Calls Nat := do
  ask (.complain ("vita-fb: ".toList ++ message))
  return 1

def usageLines : List CString :=
  ["usage: vita-fb info [--machine]".toList, "       vita-fb capture OUTPUT [--machine]".toList,
    "       vita-fb restore INPUT [--machine]".toList,
    "  info       read framebuffer geometry and ownership".toList,
    "  capture    atomically save one complete framebuffer".toList,
    "  restore    explicitly write a complete saved framebuffer".toList,
    "  --machine  stable key=value output where applicable".toList]

def usageError : Calls Nat := do
  usageLines.forM fun line => ask (.complain line)
  return 2

def stop : Stop → Calls Nat
  | .fail message => fail message
  | .unread => return 1
  | .arithmetic => do
      ask (.complain "arithmetic syntax error".toList)
      return 2

def virtualSize : CString := "/sys/class/graphics/fb0/virtual_size".toList

def stridePath : CString := "/sys/class/graphics/fb0/stride".toList

def loadMetadata : Calls (Except Stop Metadata) := do
  let .value geometry ← readValue env virtualSize | return .error .unread
  let .value bits ← readValue env "/sys/class/graphics/fb0/bits_per_pixel".toList
    | return .error .unread
  let .value stride ← readValue env stridePath | return .error .unread
  let .value bind ← readValue env env.bind | return .error .unread
  return checkMetadata geometry bits stride bind

variable (machine : Bool) (m : Metadata)

def report (key value : CString) : Calls Unit :=
  ask (.print (if machine then key ++ '=' :: value else key ++ ": ".toList ++ value))

def info : Calls Nat := do
  report machine "schema".toList ['1']
  report machine "device".toList env.device
  report machine "name".toList (substituted (← readValue env "/sys/class/graphics/fb0/name".toList))
  report machine "geometry".toList m.geometry
  report machine "width".toList m.width
  report machine "height".toList m.height
  report machine "bits_per_pixel".toList m.bits
  report machine "stride_bytes".toList m.stride
  report machine "frame_bytes".toList (Nat.toDigits 10 m.frameBytes)
  report machine "frame_blocks".toList (Nat.toDigits 10 m.blocks)
  report machine "mode".toList (substituted (← readValue env "/sys/class/graphics/fb0/modes".toList))
  report machine "fbcon_bound".toList m.bind
  return 0

/-- `$(wc -c < file | tr -d ' ')`. -/
def countText (count : Option Nat) : CString := (count.map (Nat.toDigits 10)).getD []

/-- `FRAME_BYTES` as text. -/
def Metadata.bytesText : CString := Nat.toDigits 10 m.frameBytes

def reportFrame (status key path : CString) : Calls Unit := do
  report machine "status".toList status
  report machine key path
  report machine "bytes".toList m.bytesText
  report machine "blocks".toList (Nat.toDigits 10 m.blocks)

/-- The trap's action. -/
def cleanUp (tmp : CString) : Calls Unit := do
  let _ ← ask (.remove tmp)

/-- A command while the trap is set: a signal that came in is handled after it, and the script goes on. -/
def trapped (tmp : CString) (command : Command) : Calls command.Answer :=
  Program.interruptible (ask command) (ask .signalled) (cleanUp tmp)

/-- `fail` while the trap is set. -/
def failTrapped (tmp message : CString) : Calls Nat := do
  ask (.complain ("vita-fb: ".toList ++ message))
  cleanUp tmp
  return 1

def temporary (output : CString) : CString := output ++ ".tmp.".toList ++ env.pid

/-- `capture` from the complete temporary file on. -/
def publish (output : CString) : Calls Nat := do
  let tmp := temporary env output
  let actual ← trapped tmp (.count tmp)
  if countText actual ≠ m.bytesText then
    failTrapped tmp ("short framebuffer capture: expected ".toList ++ m.bytesText ++
      " bytes, got ".toList ++ countText actual)
  else if !(← trapped tmp (.rename tmp output)) then
    failTrapped tmp ("cannot publish capture: ".toList ++ output)
  else
    reportFrame machine m "captured".toList "output".toList output
    return 0

def capture (output : CString) : Calls Nat := do
  let tmp := temporary env output
  if output = [] then usageError
  else if ← ask (.isPresent output) then
    fail ("refusing to overwrite existing capture: ".toList ++ output)
  else if !(← trapped tmp (.capture tmp m.blocks)) then
    failTrapped tmp "framebuffer capture failed".toList
  else publish env machine m output

/-- A bound console is unbound or bound again; otherwise there is nothing to do. -/
def setBind (value : CString) : Calls Bool :=
  if m.bind = ['1'] then ask (.bind value) else return true

/-- `dd`, where nothing has failed so far. -/
def showFrame (input : CString) (unbound : Bool) : Calls Bool :=
  if unbound then ask (.show input m.blocks) else return false

/-- The part of `restore` that writes; the answer is whether `status` is still 0. -/
def restoreFrame (input : CString) : Calls Bool := do
  let unbound ← setBind m ['0']
  let shown ← showFrame m input unbound
  let rebound ← setBind m ['1']
  return shown && rebound

def restore (input : CString) : Calls Nat := do
  if !(← ask (.isReadable input)) then
    fail ("restore input is not readable: ".toList ++ input)
  else
    let actual ← ask (.count input)
    if countText actual ≠ m.bytesText then
      fail ("refusing short restore: expected ".toList ++ m.bytesText ++ " bytes, got ".toList ++
        countText actual)
    else if !(← restoreFrame m input) then fail "framebuffer restore failed".toList
    else
      reportFrame machine m "restored".toList "input".toList input
      report machine "fbcon_bound".toList m.bind
      return 0

end Script

/-! ### The arguments -/

inductive Action where
  | info
  | capture (output : CString)
  | restore (input : CString)
  deriving DecidableEq

structure Options where
  action : Option Action
  machine : Bool
  deriving DecidableEq

inductive Parsed where
  | options (o : Options)
  | help
  | usage
  deriving DecidableEq

/-- The loop over the arguments; a second action is refused. -/
def parseArgs (o : Options) : List CString → Parsed
  | [] => .options o
  | arg :: rest =>
      if arg = "info".toList then
        if o.action = none then parseArgs { o with action := some .info } rest else .usage
      else if arg = "capture".toList ∨ arg = "restore".toList then
        match rest with
        | [] => .usage
        | path :: rest =>
            if o.action = none then
              parseArgs { o with
                action := some (if arg = "capture".toList then .capture path else .restore path) } rest
            else .usage
      else if arg = "--machine".toList then parseArgs { o with machine := true } rest
      else if arg = "-h".toList ∨ arg = "--help".toList then .help
      else .usage

def runAction (env : Env) (machine : Bool) (m : Metadata) : Action → Calls Nat
  | .info => info env machine m
  | .capture output => capture env machine m output
  | .restore input => restore machine m input

/-- The script: what it returns is its status. -/
def vitaFb (env : Env) (args : List CString) : Calls Nat :=
  match parseArgs ⟨none, false⟩ args with
  | .help => do
      usageLines.forM fun line => ask (.print line)
      return 0
  | .usage => usageError
  | .options o =>
      match o.action with
      | none => usageError
      | some action => do
          match ← loadMetadata env with
          | .error reason => stop reason
          | .ok m => runAction env o.machine m action

/-! ### What the commands do -/

/-- What the kernel knows of the picture. -/
structure Panel where
  width : Nat
  height : Nat
  stride : Nat
  height_lt : height < 2 ^ 31
  stride_lt : stride < 2 ^ 31

def Panel.frameBytes (panel : Panel) : Nat := panel.stride * panel.height

/-- The files, the framebuffer and whether the console is bound to it. -/
structure World where
  file : CString → Option (List UInt8)
  panel : Panel
  frame : List UInt8
  bound : Bool

namespace World

/-- What the file with the state of the console says. -/
def bindText (s : World) : CString := if s.bound then ['1'] else ['0']

/-- What the script reads of the files that it uses. -/
structure Shows (env : Env) (s : World) (path text : CString) : Prop where
  size : path = rootPath env virtualSize →
    text = Nat.toDigits 10 s.panel.width ++ ',' :: Nat.toDigits 10 s.panel.height
  stride : path = rootPath env stridePath → text = Nat.toDigits 10 s.panel.stride
  bind : path = rootPath env env.bind → text = s.bindText

/-- The bytes of `dd`. -/
def taken (blocks : Nat) (bytes : List UInt8) : List UInt8 := bytes.take (4096 * blocks)

/-- Another content of one file, or none. -/
def put (s : World) (path : CString) (content : Option (List UInt8)) : World :=
  { s with file := Function.update s.file path content }

def step (env : Env) (s : World) : Program.Event Command.Answer → World → Prop
  | ⟨.read path, reading⟩, t => t = s ∧ ∀ text, reading = .value text → s.Shows env path text
  | ⟨.isPresent path, present⟩, t => t = s ∧ present = (s.file path).isSome
  | ⟨.count path, count⟩, t => t = s ∧ ∀ k ∈ count, ∃ bytes ∈ s.file path, bytes.length = k
  | ⟨.capture target blocks, ok⟩, t =>
      ∃ content, t = s.put target content ∧ (ok = true → content = some (taken blocks s.frame))
  | ⟨.show source blocks, ok⟩, t =>
      ∃ written, t = { s with frame := written ++ s.frame.drop written.length } ∧
        written.length ≤ s.frame.length ∧
        (written ≠ [] → ∃ bytes ∈ s.file source, written <+: taken blocks bytes) ∧
        (ok = true → ∃ bytes ∈ s.file source, written = taken blocks bytes)
  | ⟨.rename source target, ok⟩, t =>
      if ok then ∃ bytes ∈ s.file source, t = (s.put target (some bytes)).put source none else t = s
  | ⟨.remove path, ok⟩, t => t = s.put path none ∨ ok = false ∧ t = s
  | ⟨.bind value, ok⟩, t => if ok then t = { s with bound := value = ['1'] } else t = s
  | _, t => t = s

end World

end VitaFb

end VitaLinuxPort
