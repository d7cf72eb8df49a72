import Mathlib.Algebra.Group.Nat.Defs

/-!
# The benchmark's workers

`toolkit/share/vita-bench.c`: what a worker of a run leaves as its checksum, and how `run_memory` adds
the workers up. The start gate, which lets the workers begin together, is in `BenchGate`.
-/

namespace VitaLinuxPort

inductive BenchWork where
  | compute
  | memcpy
  | memset
  deriving DecidableEq

/-- A worker that was created: the low word of the address of its arguments, and which of its two
buffers it is given. -/
structure BenchWorker where
  args : UInt32
  source : Bool
  destination : Bool
  deriving DecidableEq

namespace BenchWorker

variable (work : BenchWork) (rounds : UInt32) (bytes : Nat)

/-- The body of the compute loop. -/
def scramble (value index : UInt32) : UInt32 :=
  let value := value ^^^ value >>> 13
  let value := value ^^^ value <<< 17
  let value := value ^^^ value >>> 5
  value * 1664525 + 1013904223 + index

def computeChecksum (worker : BenchWorker) : UInt64 :=
  let operations := rounds * 1000000
  ((List.range operations.toNat).foldl (fun value index => scramble value (.ofNat index))
    (0x9e3779b9 ^^^ worker.args)).toUInt64

/-- One round over the buffers: the checksum, and the destination. -/
def copyRound (source : List UInt8) (state : UInt64 × List UInt8) (round : Nat) :
    UInt64 × List UInt8 :=
  let destination :=
    if work = .memcpy then source
    else .replicate bytes (UInt32.ofNat round &&& 0xff).toUInt8
  let checksum := state.1 ^^^
    (destination.getD ((UInt32.ofNat round * 4099).toNat % bytes) 0).toUInt64
  (checksum + (destination.getD (bytes - 1) 0).toUInt64, destination)

def copyChecksum (worker : BenchWorker) : UInt64 :=
  let source := List.replicate bytes (worker.args &&& 0xff).toUInt8
  let state := (List.range rounds.toNat).foldl (copyRound work bytes source)
    (0, .replicate bytes 0)
  state.1 ^^^ (state.2.getD 0 0).toUInt64

/-- The worker cannot allocate its buffers. -/
def fails (worker : BenchWorker) : Bool :=
  if work = .compute then false else !(worker.source && worker.destination)

/-- `worker_main`: the checksum it stores. -/
def workerMain (worker : BenchWorker) : UInt64 :=
  if work = .compute then worker.computeChecksum rounds
  else if worker.fails work then .ofNat (2 ^ 64 - 1)
  else worker.copyChecksum work rounds bytes

end BenchWorker

/-- `run_memory`: what it returns and the checksum, where it writes one. `initialized` is whether the
gate could be initialized; a worker that could not be created is `none`. -/
def runMemory (initialized : Bool) (work : BenchWork) (workers : List (Option BenchWorker))
    (rounds : UInt32) (bytes : Nat) : Int32 × Option UInt64 :=
  if !initialized then (-1, none)
  else if workers.any Option.isNone then (-1, none)
  else
    let checksum := (workers.filterMap id).foldl
      (fun checksum worker => checksum ^^^ worker.workerMain work rounds bytes) 0
    (if checksum = .ofNat (2 ^ 64 - 1) then -1 else 0, some checksum)

end VitaLinuxPort
