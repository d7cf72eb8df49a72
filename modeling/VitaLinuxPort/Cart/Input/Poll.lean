import VitaLinuxPort.Cart.Input.Source

/-!
# Polling

`cart_input_poll` and what it calls. What a descriptor answers during a poll is a parameter: the
results of its successive reads, of which the last before the loop leaves it is EAGAIN if nothing
else is said, and the answers to the ioctls of each resynchronisation. A source is pumped on a record
of its own: the source, its partial bytes, the shared action queue and the answers still to come.
-/

namespace VitaLinuxPort

structure InputEvent where
  type : UInt16
  code : UInt16
  value : Int32
  deriving DecidableEq, Repr

def evSyn : UInt16 := 0
def evKey : UInt16 := 1
def evAbs : UInt16 := 3
def synReport : UInt16 := 0
def synDropped : UInt16 := 3

/-- The number whose bytes, from the lowest, are these. -/
def littleEndian (bytes : List UInt8) : Nat := bytes.foldr (fun byte n => byte.toNat + 256 * n) 0

/-- The fields stand after the two words of the time stamp, in the last eight bytes. -/
def decodeEvent [Target] (record : List UInt8) : InputEvent :=
  let fields := record.drop (Target.eventBytes - 8)
  { type := UInt16.ofNat (littleEndian (fields.take 2))
    code := UInt16.ofNat (littleEndian ((fields.drop 2).take 2))
    value := Int32.ofNat (littleEndian ((fields.drop 4).take 4)) }

/-- The result of a `read`. No bytes means end of file; `failed` is any error besides EINTR and
EAGAIN. -/
inductive ReadResult where
  | bytes (data : List UInt8)
  | eintr
  | eagain
  | failed
  deriving DecidableEq, Repr

/-- The answers to EVIOCGKEY and EVIOCGABS at one resynchronisation; `none` where one fails. -/
structure ResyncAnswer where
  keyState : Option (List UInt8)
  abs : AxisSlot → Option AbsInfo

structure Pump where
  source : CartInputSource
  partialBytes : List UInt8
  pending : List CartInputAction
  resyncs : List ResyncAnswer
  calls : List Syscall

def Pump.called (pump : Pump) (call : Syscall) : Pump := { pump with calls := pump.calls ++ [call] }

/-- The queue has room for two actions a source. -/
def enqueueAction (pending : List CartInputAction) (action : CartInputAction) :
    List CartInputAction :=
  if action = .none then pending
  else if pending.length < 8 then pending ++ [action]
  else pending

def handleDisconnect (pump : Pump) : Pump :=
  let pump := if pump.source.fd ≥ 0 then pump.called (.close pump.source.fd) else pump
  { pump with
    source :=
      { pump.source with
        fd := -1
        state := .absent
        generation := pump.source.generation + 1
        lastRaw := fun _ => 0
        heldKeys := 0 }
    partialBytes := [] }

def holdKey (heldKeys : UInt64) (code : UInt16) (value : Int32) : UInt64 :=
  if code < 64 then
    if value ≠ 0 then heldKeys ||| (1 <<< code.toUInt64)
    else heldKeys &&& ~~~(1 <<< code.toUInt64)
  else heldKeys

/-- The value is passed on in 16 bits. -/
def processKeyEvent (code : UInt16) (value : Int32) (pump : Pump) : Pump :=
  { pump with
    source := { pump.source with heldKeys := holdKey pump.source.heldKeys code value }
    pending :=
      if cartInputKeyEmitsAction value.toUInt32.toUInt16 then
        enqueueAction pump.pending (cartInputMapKey code)
      else pump.pending }

/-- The first 64 bits of the key state. -/
def mergeKeyState (state : List UInt8) : UInt64 :=
  (List.range 64).foldl
    (fun merged code => if bitTest state code then merged ||| (1 <<< UInt64.ofNat code) else merged) 0

def CartInputSource.resynced (source : CartInputSource) (answer : ResyncAnswer) : CartInputSource :=
  { source with
    heldKeys := answer.keyState.elim source.heldKeys mergeKeyState
    lastRaw := fun slot =>
      if source.axisValid slot then (answer.abs slot).elim (source.lastRaw slot) AbsInfo.value
      else source.lastRaw slot }

/-- All ioctls fail when no answer is left. -/
def resyncAfterDesync (pump : Pump) : Pump :=
  let answer := pump.resyncs.headD { keyState := none, abs := fun _ => none }
  { pump with
    source := pump.source.resynced answer
    resyncs := pump.resyncs.tail
    calls := pump.calls ++ .ioctl pump.source.fd ::
      ((List.finRange 8).filter pump.source.axisValid).map fun _ => .ioctl pump.source.fd }

def CartInputSource.setState (source : CartInputSource) (state : CartInputState) :
    CartInputSource :=
  { source with state }

def consumeEvent (event : InputEvent) (pump : Pump) : Pump :=
  let source := pump.source
  if event.type = evSyn then
    if event.code = synDropped ∧ source.state = .connected then
      { pump with source := source.setState .desync }
    else if event.code = synReport ∧ source.state = .desync then
      let pump := resyncAfterDesync pump
      { pump with source := pump.source.setState .connected }
    else pump
  else if event.type = evKey then
    if source.state = .connected then processKeyEvent event.code event.value pump else pump
  else if event.type = evAbs then
    match axisSlot event.code with
    | some slot =>
        if source.state = .connected then
          { pump with
            source := { source with lastRaw := Function.update source.lastRaw slot event.value } }
        else pump
    | none => pump
  else pump

variable [Target]

/-- The inner loop, which takes whole records off the front of the buffer; `fuel` is at least the
number of bytes in it. -/
def drainEvents : Nat → Pump → Pump
  | 0, pump => pump
  | fuel + 1, pump =>
      if pump.partialBytes.length ≥ Target.eventBytes then
        let event := decodeEvent (pump.partialBytes.take Target.eventBytes)
        let pump := { pump with partialBytes := pump.partialBytes.drop Target.eventBytes }
        drainEvents fuel (consumeEvent event pump)
      else pump

/-- The records are consumed and one more read is made. -/
def beginRead (pump : Pump) : Pump :=
  let pump := drainEvents pump.partialBytes.length pump
  pump.called (.read pump.source.fd (sizeSub 256 pump.partialBytes.length))

def pumpSource : List ReadResult → Pump → Pump
  | [], pump => beginRead pump
  | got :: reads, pump =>
      let pump := beginRead pump
      match got with
      | .bytes [] => handleDisconnect pump
      | .bytes data => pumpSource reads { pump with partialBytes := pump.partialBytes ++ data }
      | .eintr => pumpSource reads pump
      | .eagain => pump
      | .failed => handleDisconnect pump

structure PollState where
  input : CartInput
  resyncs : Slot → List ResyncAnswer
  calls : List Syscall

def PollState.load (s : PollState) (index : Slot) : Pump where
  source := s.input.source index
  partialBytes := s.input.partialBytes index
  pending := s.input.pending
  resyncs := s.resyncs index
  calls := s.calls

def PollState.store (s : PollState) (index : Slot) (pump : Pump) : PollState where
  input :=
    { source := Function.update s.input.source index pump.source
      pending := pump.pending
      partialBytes := Function.update s.input.partialBytes index pump.partialBytes }
  resyncs := Function.update s.resyncs index pump.resyncs
  calls := pump.calls

/-- The body of the loop over the sources: a source that is out of sync is not read. -/
def pollSource (reads : Slot → List ReadResult) (s : PollState) (index : Slot) : PollState :=
  if (s.input.source index).fd < 0 then s
  else if (s.input.source index).state = .desync then s
  else s.store index (pumpSource (reads index) (s.load index))

def pollSources (input : CartInput) (reads : Slot → List ReadResult)
    (resyncs : Slot → List ResyncAnswer) : PollState :=
  (List.finRange 4).foldl (pollSource reads) { input, resyncs, calls := [] }

omit [Target] in
/-- The axes of a source that the frame takes: calibrated, normalizable and not yet present. -/
def CartInputFrame.takes (frame : CartInputFrame) (source : CartInputSource) (slot : AxisSlot) :
    Bool :=
  source.axisValid slot &&
    cartInputAxisNormalize (source.lastRaw slot) (source.axis slot) != cartInputAxisInvalid &&
    !frame.axisPresent slot

def CartInputFrame.addSource (source : Slot → CartInputSource) (frame : CartInputFrame)
    (i : Slot) : CartInputFrame :=
  if (source i).state = .absent then frame
  else
    { axis := fun slot =>
        if frame.takes (source i) slot then
          Int16.ofInt (cartInputAxisNormalize ((source i).lastRaw slot) ((source i).axis slot))
        else frame.axis slot
      axisPresent := fun slot => frame.takes (source i) slot || frame.axisPresent slot
      axisOwner := fun slot => if frame.takes (source i) slot then i else frame.axisOwner slot
      heldKeys := frame.heldKeys ||| (source i).heldKeys
      connectedMask := frame.connectedMask ||| (1 <<< UInt32.ofNat i)
      generationTotal := frame.generationTotal + (source i).generation }

/-- A frame no source has contributed to; `CART_INPUT_MAX_SOURCES` owns no axis. -/
def CartInputFrame.empty : CartInputFrame where
  axis := fun _ => 0
  axisPresent := fun _ => false
  axisOwner := fun _ => 4
  heldKeys := 0
  connectedMask := 0
  generationTotal := 0

def buildFrame (input : CartInput) : CartInputFrame :=
  (List.finRange 4).foldl (CartInputFrame.addSource input.source) .empty

structure Polled where
  input : CartInput
  action : CartInputAction
  frame : CartInputFrame
  resyncs : Slot → List ResyncAnswer
  calls : List Syscall

def cartInputPoll (input : CartInput) (reads : Slot → List ReadResult)
    (resyncs : Slot → List ResyncAnswer) : Polled :=
  let s := pollSources input reads resyncs
  let input := { s.input with pending := s.input.pending.tail }
  { input
    action := s.input.pending.headD .none
    frame := buildFrame input
    resyncs := s.resyncs
    calls := s.calls }

end VitaLinuxPort
