import VitaLinuxPort.Toolkit.VitaControl.Invocation

/-!
# Invocations that run at the same time

Any number of processes run `main`, each with arguments and an environment of its own, and take turns
call by call. The system answers what it must: `flock` lets one in at a time, a read of a state file
returns what stands in it, the clock does not go back. Everything else about the answers is free: the
pidfile may be rewritten and the cart may come and go between any two calls.
-/

namespace VitaLinuxPort

namespace VitaControl

/-- `opened` is the state file that a process has open, `holder` who has the lock on a file. What the
clock told a process last, whose timestamps were written in full and who sent SIGUSR1 is only noted. -/
structure Processes (ι : Type*) where
  clockNs : UInt64
  files : CString → Option CString
  holder : CString → Option ι
  opened : ι → Option CString
  program : ι → Calls Nat
  reading : ι → Option UInt64
  granted : List (ι × UInt64)
  signalled : List ι

namespace Processes

variable {ι : Type*}

def start (files : CString → Option CString) (clockNs : UInt64) (program : ι → Calls Nat) :
    Processes ι where
  clockNs := clockNs
  files := files
  holder := fun _ => none
  opened := fun _ => none
  program := program
  reading := fun _ => none
  granted := []
  signalled := []

variable [DecidableEq ι]

/-- The contents of a file after `text` was written over its start, as far as it was written. -/
def overwritten (contents text : CString) (count : Nat) : CString :=
  text.take count ++ contents.drop (min count text.length)

def release (s : Processes ι) (p : ι) : CString → Option ι := fun path =>
  if s.opened p = some path ∧ s.holder path = some p then none else s.holder path

/-- What an answer to `p` means for the system, if the system can give it. -/
def serve (s : Processes ι) (p : ι) : (request : SystemCall) → request.Answer → Option (Processes ι)
  | .clock, some nowNs =>
      if s.clockNs ≤ nowNs then
        some { s with clockNs := nowNs, reading := Function.update s.reading p (some nowNs) }
      else none
  | .openOrCreate path, true =>
      some { s with
        files := Function.update s.files path (some ((s.files path).getD []))
        opened := Function.update s.opened p (some path) }
  | .lock, true =>
      (s.opened p).bind fun path =>
        if s.holder path = none then some { s with holder := Function.update s.holder path (some p) }
        else none
  | .unlock, _ => some { s with holder := s.release p }
  | .close, _ => some { s with holder := s.release p, opened := Function.update s.opened p none }
  | .read count, some bytes =>
      match s.opened p with
      | none => some s
      | some path => if bytes.val = ((s.files path).getD []).take count then some s else none
  | .truncate, true =>
      (s.opened p).map fun path => { s with files := Function.update s.files path (some []) }
  | .write text, some count =>
      (s.opened p).map fun path =>
        { s with
          files := Function.update s.files path (some (overwritten ((s.files path).getD []) text count))
          granted :=
            match s.reading p with
            | some nowNs => if count = text.length then s.granted ++ [(p, nowNs)] else s.granted
            | none => s.granted }
  | .kill _ .usr1, .sent => some { s with signalled := s.signalled ++ [p] }
  | _, _ => some s

/-- `p` makes its next call and gets its answer, if the call is the one of the event. -/
def next (s : Processes ι) (p : ι) (event : Program.Event SystemCall.Answer) :
    Option (Processes ι) :=
  match s.program p with
  | .done _ => none
  | .call request rest =>
      if h : event.request = request then
        let answer : request.Answer := h ▸ event.answer
        (s.serve p request answer).map fun u =>
          { u with program := Function.update s.program p (rest answer) }
      else none

def Steps (s : Processes ι) (event : ι × Program.Event SystemCall.Answer) (t : Processes ι) : Prop :=
  s.next event.1 event.2 = some t

end Processes

end VitaControl

end VitaLinuxPort
