import VitaLinuxPort.Cart.Input.Poll
import VitaLinuxPort.Toolkit.InputWatch

/-!
# The loop of `vita-inputwatch`

`toolkit/share/vita-inputwatch.c` from its `for` on. Each turn reads the clock, polls and reads; what
these answer is a parameter. A turn has no result where `elapsed_ms` leaves its types. `reads` is what
each `read` was asked for and what it stored.
-/

namespace VitaLinuxPort

/-- How a `poll` ends; `ready` with whether `POLLIN` is set, and `POLLERR`, `POLLHUP` or `POLLNVAL`. -/
inductive PollAnswer where
  | interrupted
  | failed
  | timedOut
  | ready (readable broken : Bool)
  deriving DecidableEq, Repr

structure TurnAnswers where
  now : Option Timespec
  poll : PollAnswer
  read : ReadResult

/-- `struct counts`. -/
structure WatchCounts where
  eventsSeen : UInt32
  keyPresses : UInt32
  keyReleases : UInt32
  keyRepeats : UInt32
  absEvents : UInt32
  synReports : UInt32
  deriving DecidableEq, Repr

structure Watch where
  pending : List UInt8
  counts : WatchCounts
  printed : List (UInt32 × InputEvent)
  reads : List (Nat × List UInt8)
  deriving DecidableEq, Repr

def Watch.started : Watch := ⟨[], ⟨0, 0, 0, 0, 0, 0⟩, [], []⟩

def countEvent (event : InputEvent) (counts : WatchCounts) : WatchCounts :=
  let counts := { counts with eventsSeen := counts.eventsSeen + 1 }
  if event.type = evKey then
    if event.value = 1 then { counts with keyPresses := counts.keyPresses + 1 }
    else if event.value = 0 then { counts with keyReleases := counts.keyReleases + 1 }
    else if event.value = 2 then { counts with keyRepeats := counts.keyRepeats + 1 }
    else counts
  else if event.type = evAbs then { counts with absEvents := counts.absEvents + 1 }
  else if event.type = evSyn ∧ event.code = synReport then
    { counts with synReports := counts.synReports + 1 }
  else counts

variable [Target]

/-- The inner `while`, which empties the buffer and so runs at most once. -/
def Watch.consume (w : Watch) : Watch :=
  if w.pending.length = Target.eventBytes then
    let event := decodeEvent w.pending
    let counts := countEvent event w.counts
    { w with pending := [], counts, printed := w.printed ++ [(counts.eventsSeen, event)] }
  else w

/-- A turn after its `poll` has found something: the state, and the status if the loop ends. -/
def Watch.receive (w : Watch) (answer : ReadResult) : Watch × Option Nat :=
  let count := Target.eventBytes - w.pending.length
  match answer with
  | .bytes data =>
      let stored := data.take count
      let w := { w with reads := w.reads ++ [(count, stored)] }
      if stored = [] then (w, some (if w.pending = [] then 0 else 1))
      else ({ w with pending := w.pending ++ stored }.consume, none)
  | .eagain => (w, none)
  | .eintr | .failed => (w, some 1)

def Watch.turn (durationMs maxEvents : UInt32) (start : Timespec) (w : Watch)
    (answers : TurnAnswers) : Option (Watch × Option Nat) := do
  match ← watchTurn durationMs maxEvents w.counts.eventsSeen start answers.now with
  | .ended status => return (w, some status)
  | .poll _ =>
      return match answers.poll with
        | .interrupted => (w, none)
        | .failed | .timedOut => (w, some 1)
        | .ready readable broken =>
            if broken && !readable then (w, some 1) else w.receive answers.read

/-- The loop: the state, and `status` if it has come to it when the answers end. -/
def Watch.run (durationMs maxEvents : UInt32) (start : Timespec) :
    List TurnAnswers → Watch → Option (Watch × Option Nat)
  | [], w => some (w, none)
  | answers :: rest, w => do
      match ← w.turn durationMs maxEvents start answers with
      | (w, some status) => return (w, some status)
      | (w, none) => Watch.run durationMs maxEvents start rest w

end VitaLinuxPort
