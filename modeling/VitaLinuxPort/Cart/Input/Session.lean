import VitaLinuxPort.Cart.Input.Discovery
import VitaLinuxPort.Cart.Input.Poll

/-!
# The life of a `struct cart_input`

The four functions of `cart/include/cart/input.h` as the operations on one object, called in any
order. A session records the calls made on descriptors so far, and of each slot the rank its device
was discovered with, which the object itself does not keep.
-/

namespace VitaLinuxPort

def CartInput.cleared : CartInput where
  source := fun _ => resetSource
  pending := []
  partialBytes := fun _ => []

/-- Whatever was in the object. -/
def cartInputInitEx (directory : Directory) : Discovery := discoverPass .cleared directory

def cartInputRescan (input : CartInput) (directory : Directory) : Discovery :=
  discoverPass input directory

def cartInputShutdown (input : CartInput) : CartInput × List Syscall :=
  (.cleared, ((List.finRange 4).filter fun slot => (input.source slot).fd ≥ 0).map fun slot =>
    .close (input.source slot).fd)

inductive InputOp where
  | init (directory : Directory)
  | rescan (directory : Directory)
  | poll (reads : Slot → List ReadResult) (resyncs : Slot → List ResyncAnswer)
  | shutdown

structure InputSession where
  input : CartInput
  rank : Slot → Int
  calls : List Syscall

namespace InputSession

def fresh : InputSession where
  input := .cleared
  rank := fun _ => 0
  calls := []

def discovered (s : InputSession) (pass : Discovery) : InputSession where
  input := pass.input
  rank := fun slot => (pass.claimed.lookup slot).elim (s.rank slot) CartInputCandidate.rank
  calls := s.calls ++ pass.calls

variable [Target]

def perform (s : InputSession) : InputOp → InputSession
  | .init directory => s.discovered (cartInputInitEx directory)
  | .rescan directory => s.discovered (cartInputRescan s.input directory)
  | .poll reads resyncs =>
      let polled := cartInputPoll s.input reads resyncs
      { s with input := polled.input, calls := s.calls ++ polled.calls }
  | .shutdown =>
      let (input, calls) := cartInputShutdown s.input
      { s with input, calls := s.calls ++ calls }

def Performs (s : InputSession) (op : InputOp) (t : InputSession) : Prop := s.perform op = t

end InputSession

end VitaLinuxPort
