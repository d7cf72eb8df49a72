import Mathlib.Data.List.DropRight
import VitaLinuxPort.Cart.Input.Source

/-!
# Discovery

The discovery pass of `cart/src/input_evdev.c`. What the kernel answers is a parameter: the
directory is the list of entries `readdir` returns, each with the contents of its two metadata files,
the result of opening its node, and the answers of the open descriptor. Every function also returns
the calls it makes on descriptors, in order.
-/

namespace VitaLinuxPort

def candidateCap : Nat := 16

def vitaButtonsName : CString := "PlayStation Vita Buttons (Syscon)".toList

def vitaButtonsPhys : CString := "vita_syscon_buttons".toList

/-- What an open event node answers; `none` where the call fails. The same question is asked more
than once and need not get the same answer. -/
structure Probe where
  ioctlName : Option CString
  gamepadKeys : Option (List UInt8)
  gamepadAbs : Option (List UInt8)
  keyboardKeys : Option (List UInt8)
  snapshotAbs : Option (List UInt8)
  ioctlAbs : AxisSlot → Option AbsInfo

/-- A directory entry, the files `device/phys` and `device/name` under it, and its event node.
`staleName` is what `name_line` holds before it is read into. -/
structure Dirent where
  dName : CString
  physFile : Option CString
  nameFile : Option CString
  staleName : CString
  opened : Int
  probe : Probe

inductive Directory where
  | missing
  | unreadable
  | entries (list : List Dirent)

structure CartInputCandidate where
  fd : Int
  rank : Int
  number : Nat
  node : CString
  prepared : CartInputSource

/-- `read_trimmed_line` into a buffer of `outSize` bytes that holds `old`. -/
def readTrimmedLine (file : Option CString) (outSize : Nat) (old : CString) : CString :=
  match file with
  | none => old
  | some contents =>
      let line := (contents.take (outSize - 1)).rdropWhile fun c => c == '\n' || c == '\r'
      line.takeWhile (· != '\x00')

/-- The number of a name of the form `eventN`, where it fits an `int`. -/
def eventNodeNumber (name : CString) : Option Nat :=
  match name with
  | 'e' :: 'v' :: 'e' :: 'n' :: 't' :: digits =>
      if digits.isEmpty || !digits.all Char.isDigit then none
      else
        let number := digits.foldl (fun n c => 10 * n + (c.toNat - '0'.toNat)) 0
        if number > 2147483647 then none else some number
  | _ => none

def probeIsGamepad (fd : Int) (probe : Probe) : Bool × List Syscall :=
  match probe.gamepadKeys with
  | none => (false, [.ioctl fd])
  | some keyBits =>
      match probe.gamepadAbs with
      | none => (false, [.ioctl fd, .ioctl fd])
      | some absBits =>
          let hits := [304, 305, 306, 307, 308, 310, 311, 314, 315, 316].countP (bitTest keyBits)
          let stickAxes := [0, 1, 3, 4].countP (bitTest absBits)
          (hits ≥ 4 && stickAxes ≥ 2, [.ioctl fd, .ioctl fd])

def probeIsActionKeyboard (fd : Int) (probe : Probe) : Bool × List Syscall :=
  match probe.keyboardKeys with
  | none => (false, [.ioctl fd])
  | some keyBits => (bitTest keyBits 1 || bitTest keyBits 16, [.ioctl fd])

/-- The range kept of an axis: its bounds, and as deadzone what `flat` suggests if that is wider
than the default and at most half. -/
def snapshotRange (info : AbsInfo) : CartInputAxisRange :=
  let span := info.maximum - info.minimum
  let pct := cartInputDefaultDeadzonePct
  let suggested := info.flat * 200 / span
  let pct := if span > 0 ∧ info.flat > 0 ∧ suggested > pct ∧ suggested ≤ 50 then suggested else pct
  { min := info.minimum, max := info.maximum, deadzonePct := pct }

def probeSnapshotAxes (source : CartInputSource) (fd : Int) (probe : Probe) :
    CartInputSource × List Syscall :=
  let source := { source with heldKeys := 0, lastRaw := fun _ => 0 }
  match probe.snapshotAbs with
  | none => ({ source with axisValid := fun _ => false }, [.ioctl fd])
  | some absBits =>
      let asked := fun slot => bitTest absBits (axisCodes slot).toNat
      let answer := fun slot => if asked slot then probe.ioctlAbs slot else none
      ({ source with
          axis := fun slot => (answer slot).elim (source.axis slot) snapshotRange
          axisValid := fun slot => (answer slot).isSome
          lastRaw := fun slot => (answer slot).elim (source.lastRaw slot) AbsInfo.value },
        .ioctl fd :: ((List.finRange 8).filter asked).map fun _ => .ioctl fd)

/-- The rank of an open node, zero if it is not admitted, and the source prepared from it. -/
def classifySource (scratch : CartInputSource) (fd : Int) (sysfsRank : Int) (probe : Probe) :
    Int × CartInputSource × List Syscall :=
  match probe.ioctlName with
  | none => (0, scratch, [.ioctl fd])
  | some name =>
      let scratch := { scratch with name := name.take (cartInputNameMax - 1) }
      let (gamepad, gamepadCalls) := probeIsGamepad fd probe
      let (keyboard, keyboardCalls) :=
        if gamepad then (false, []) else probeIsActionKeyboard fd probe
      let probed : Int := if gamepad then 2 else if keyboard then 1 else 0
      let calls := .ioctl fd :: gamepadCalls ++ keyboardCalls
      if probed = 0 then (0, scratch, calls)
      else
        let (scratch, snapshotCalls) := probeSnapshotAxes scratch fd probe
        (max sysfsRank probed, scratch, calls ++ snapshotCalls)

/-- The metadata hint: 4 for the physical path of the Syscon buttons, 3 for their name. -/
def sysfsRank (entry : Dirent) : Int :=
  if readTrimmedLine entry.physFile 128 [] = vitaButtonsPhys then 4
  else if readTrimmedLine entry.nameFile cartInputNameMax entry.staleName = vitaButtonsName then 3
  else 0

/-- The body of the directory loop: the candidate the entry yields, if any. -/
def examineEntry (entry : Dirent) : Option CartInputCandidate × List Syscall :=
  match eventNodeNumber entry.dName with
  | none => (none, [])
  | some number =>
      if entry.dName.length ≥ cartInputNodeMax then (none, [])
      else if entry.opened < 0 then (none, [.openNode entry.opened])
      else
        let scratch := { CartInputSource.zero with fd := -1, node := entry.dName }
        let (classified, scratch, calls) :=
          classifySource scratch entry.opened (sysfsRank entry) entry.probe
        if classified = 0 then
          (none, .openNode entry.opened :: calls ++ [.close entry.opened])
        else
          (some
            { fd := entry.opened
              rank := max (sysfsRank entry) classified
              number
              node := entry.dName
              prepared := scratch },
            .openNode entry.opened :: calls)

/-- The directory loop, which stops at `CANDIDATE_CAP` candidates; it has `count` already. -/
def scanDirectory (count : Nat) : List Dirent → List CartInputCandidate × List Syscall
  | [] => ([], [])
  | entry :: rest =>
      if count < candidateCap then
        let (found, calls) := examineEntry entry
        let (others, later) := scanDirectory (count + found.toList.length) rest
        (found.toList ++ others, calls ++ later)
      else ([], [])

/-- Whether the insertion of `key` shifts `earlier`. -/
def CartInputCandidate.shiftedBy (earlier key : CartInputCandidate) : Bool :=
  earlier.rank < key.rank || (earlier.rank == key.rank && earlier.number > key.number)

/-- One round of the insertion sort. The part already sorted is held from its back, where the
shifting begins. -/
def insertCandidate (key : CartInputCandidate) : List CartInputCandidate → List CartInputCandidate
  | [] => [key]
  | last :: front =>
      if last.shiftedBy key then last :: insertCandidate key front else key :: last :: front

def cartInputPlan (candidates : List CartInputCandidate) : List CartInputCandidate :=
  (candidates.foldl (fun sorted key => insertCandidate key sorted) []).reverse

def slotEmpty (input : CartInput) (index : Slot) : Bool := (input.source index).fd < 0

def firstFreeSlot (input : CartInput) : Option Slot := (List.finRange 4).find? (slotEmpty input)

/-- The slot after the candidate has moved into it. -/
def CartInputCandidate.connected (candidate : CartInputCandidate) : CartInputSource :=
  { candidate.prepared with
    fd := candidate.fd
    state := .connected
    generation := candidate.prepared.generation + 1 }

def CartInput.setSource (input : CartInput) (slot : Slot) (source : CartInputSource) : CartInput :=
  { input with source := Function.update input.source slot source }

/-- What the loop over the planned candidates leaves: which slot each claimed one moved into, where
the source keeps their number only, and the array of candidates with its `fd` fields. -/
structure Claims where
  input : CartInput
  claimed : List (Slot × CartInputCandidate)
  candidates : List CartInputCandidate
  calls : List Syscall

def claimCandidates (input : CartInput) : List CartInputCandidate → Claims
  | [] => { input, claimed := [], candidates := [], calls := [] }
  | candidate :: rest =>
      match firstFreeSlot input with
      | none =>
          let claims := claimCandidates input rest
          { claims with
            candidates := { candidate with fd := -1 } :: claims.candidates
            calls := .close candidate.fd :: claims.calls }
      | some slot =>
          let claims := claimCandidates (input.setSource slot candidate.connected) rest
          { claims with
            claimed := (slot, candidate) :: claims.claimed
            candidates := { candidate with fd := -1 } :: claims.candidates }

/-- The last loop: a descriptor still in the array and in no slot is closed. -/
def sweepLeftovers (input : CartInput) (candidates : List CartInputCandidate) : List Syscall :=
  candidates.flatMap fun candidate =>
    if candidate.fd < 0 ∨ ∃ slot, (input.source slot).fd = candidate.fd then []
    else [.close candidate.fd]

structure Discovery where
  input : CartInput
  claimed : List (Slot × CartInputCandidate)
  result : Int
  calls : List Syscall

def discoverPass (input : CartInput) : Directory → Discovery
  | .missing => { input, claimed := [], result := 0, calls := [] }
  | .unreadable => { input, claimed := [], result := -1, calls := [] }
  | .entries list =>
      let (candidates, scanned) := scanDirectory 0 list
      let claims := claimCandidates input (cartInputPlan candidates)
      { input := claims.input
        claimed := claims.claimed
        result := claims.claimed.length
        calls := scanned ++ claims.calls ++ sweepLeftovers claims.input claims.candidates }

end VitaLinuxPort
