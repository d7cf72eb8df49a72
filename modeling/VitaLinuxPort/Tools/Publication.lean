import VitaLinuxPort.Lib.Program

/-!
# Publication of a tree

How `tools/build-vita-native-toolchain.sh`, and `tools/build-vita-toolkit-squashfs.sh` with
`--stage-output`, replace an output tree: the complete new tree stands beside it, the old one is moved
away, the new one to its place, and the old one back if that fails. The trap removes the new tree
wherever it still is, but does not end the script, so every command may be followed by that.

What a tree is does not matter. A `mv` is a rename, since all places are in one directory; a removal that
fails may have removed a part.
-/

namespace VitaLinuxPort

namespace Publication

/-- `OUTPUT`, `PUBLISH/root` and `BACKUP`. -/
inductive Place where
  | output
  | root
  | backup
  deriving DecidableEq

/-- `signalled` is whether a trapped signal has come in. -/
inductive Command where
  | isPresent (place : Place)
  | move (source target : Place)
  | remove (place : Place)
  | signalled
  deriving DecidableEq

/-- Whether it is so, or has succeeded. -/
abbrev Command.Answer (_ : Command) : Type := Bool

abbrev Calls (α : Type) : Type := Program Command Command.Answer α

abbrev Trace : Type := List (Program.Event Command.Answer)

abbrev ask (command : Command) : Calls Bool := Program.ask command

/-- The trap's action. -/
def cleanUp : Calls Unit := do
  let _ ← ask (.remove .root)

/-- A command, and the trap's action if a signal has come in meanwhile. -/
def trapped (command : Command) : Calls Bool :=
  Program.interruptible (ask command) (ask .signalled) cleanUp

/-- The trap is set on the exit of the script, too. -/
def exit (status : Nat) : Calls Nat := do
  cleanUp
  return status

/-- `[ -z "$BACKUP" ] || …`. -/
def withBackup (saved : Bool) (command : Command) : Calls Bool :=
  if saved then trapped command else return true

/-- From the `mv` of the new tree on; `saved` is whether there is a backup. A command that fails ends the
script (`set -e`). -/
def install (saved : Bool) : Calls Nat := do
  if ← trapped (.move .root .output) then
    let removed ← withBackup saved (.remove .backup)
    exit (if removed then 0 else 1)
  else
    let _ ← withBackup saved (.move .backup .output)
    exit 1

def publish : Calls Nat := do
  if ← trapped (.isPresent .output) then
    if ← trapped (.move .output .backup) then install true else exit 1
  else install false

/-- The script, with what it does about an output that is there. -/
def replaceOutput (force : Bool) : Calls Nat := do
  let refused ← if force then pure false else ask (.isPresent .output)
  if refused then return 1 else publish

/-! ### What the commands do -/

structure World (T : Type) where
  output : Option T
  root : Option T
  backup : Option T

namespace World

variable {T : Type}

def get (s : World T) : Place → Option T
  | .output => s.output
  | .root => s.root
  | .backup => s.backup

def put (s : World T) (place : Place) (content : Option T) : World T :=
  match place with
  | .output => { s with output := content }
  | .root => { s with root := content }
  | .backup => { s with backup := content }

/-- A tree that is moved to a place where there is one comes to lie inside it. -/
def step (s : World T) : Program.Event Command.Answer → World T → Prop
  | ⟨.isPresent place, present⟩, t => t = s ∧ present = (s.get place).isSome
  | ⟨.move source target, ok⟩, t =>
      if ok then ∃ tree ∈ s.get source, ∃ moved, t = (s.put target (some moved)).put source none ∧
        (s.get target = none → moved = tree)
      else t = s
  | ⟨.remove place, ok⟩, t => ∃ left, t = s.put place left ∧ (ok = true → left = none)
  | ⟨.signalled, _⟩, t => t = s

end World

end Publication

end VitaLinuxPort
