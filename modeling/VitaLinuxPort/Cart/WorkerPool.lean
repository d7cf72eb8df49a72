import Mathlib.Data.Fin.Basic
import VitaLinuxPort.Lib.Barrier
import VitaLinuxPort.Lib.CInt

/-!
# The worker pool

`cart/src/worker_pool.c` with at least one worker, one step for each access to what the threads share.
The dispatching thread has initialized the mutex, the condition and the barriers and goes on to create
the workers; from then on any thread may take the next step. A thread that sleeps on the condition
may wake at any time, broadcast or not, since it tests what it waited for again.

Jobs and slots are pointers the pool passes on. `log` is what an observer sees: the calls of
`cart_worker_pool_dispatch` and `cart_worker_pool_shutdown`, their returns, and the jobs.
-/

namespace VitaLinuxPort

def cartWorkerPoolMax : Nat := 8

/-- The arguments of a dispatch. -/
structure PoolDispatch (J S : Type) (n : Nat) where
  job : J
  slots : Fin n → S
  generation : UInt64

inductive PoolEvent (J S : Type) (n : Nat) where
  | dispatch (call : PoolDispatch J S n)
  | returned
  | shutdown
  | closed
  | began (worker : Fin n) (job : Option J) (slot : Option S) (start stop : Int32)
      (generation : UInt64)
  | ended (worker : Fin n)

/-- The points of `worker_main`: the mutex is taken, `startup_ready` tested, the condition waited for,
`shutting_down` tested, the mutex left to return; `startup_released` counted up and the mutex left;
then round by round the start barrier reached and left, `shutting_down` tested, the band computed,
what is to be called read, the job begun and ended, the stop barrier reached and left. -/
inductive WorkerPoint (J S : Type) where
  | unborn
  | lock
  | gate
  | asleep
  | checkDown
  | refuse
  | release
  | unlock
  | arriveStart
  | waitStart
  | readDown
  | readBounds
  | readJob (start stop : Int32)
  | readSlot (start stop : Int32) (job : Option J)
  | readGeneration (start stop : Int32) (job : Option J) (slot : Option S)
  | call (start stop : Int32) (job : Option J) (slot : Option S) (generation : UInt64)
  | running
  | arriveStop
  | waitStop
  | exited

/-- The points of the dispatching thread. In `cart_worker_pool_init`: the workers are created, and
where one cannot be, the flags are set under the mutex and those there are joined; or the gate is
opened under the mutex and the workers waited for. Then `idle`, from which it dispatches or shuts
down: the three writes of a dispatch and its two barriers; the flag, the barrier and the joins of a
shutdown. -/
inductive DispatcherPoint (J S : Type) (n : Nat) where
  | create (index : Nat)
  | failLock (index : Nat)
  | failDown (index : Nat)
  | failReady (index : Nat)
  | failUnlock (index : Nat)
  | failJoin (index started : Nat)
  | failed
  | openLock
  | openReady
  | await
  | awaitAsleep
  | openUnlock
  | idle
  | writeJob (call : PoolDispatch J S n)
  | writeSlots (call : PoolDispatch J S n)
  | writeGeneration (call : PoolDispatch J S n)
  | arriveStart (call : PoolDispatch J S n)
  | waitStart (call : PoolDispatch J S n)
  | arriveStop (call : PoolDispatch J S n)
  | waitStop (call : PoolDispatch J S n)
  | setDown
  | lastArrive
  | lastWait
  | join (index : Nat)
  | closed

/-- A worker, or the dispatching thread as `none`. -/
abbrev PoolThread (n : Nat) := Option (Fin n)

/-- The pool and its threads. `startWaiting` and `stopWaiting` are the threads that the barriers hold
back. -/
structure CartWorkerPool (J S : Type) (n : Nat) where
  active : Bool
  workerCount : Nat
  rows : Int32
  slots : Fin n → Option S
  job : Option J
  generation : UInt64
  startWaiting : Finset (PoolThread n)
  stopWaiting : Finset (PoolThread n)
  startupMutex : Option (PoolThread n)
  startupReady : Bool
  startupReleased : Nat
  shuttingDown : Bool
  dispatcher : DispatcherPoint J S n
  worker : Fin n → WorkerPoint J S
  log : List (PoolEvent J S n)

/-- What the dispatching thread does where it has a choice: `pthread_create` fails, a job is
dispatched, the pool is shut down. -/
inductive DispatcherMove (J S : Type) (n : Nat) where
  | go
  | createFails
  | dispatch (call : PoolDispatch J S n)
  | shutdown

inductive PoolMove (J S : Type) (n : Nat) where
  | dispatcher (move : DispatcherMove J S n)
  | worker (index : Fin n)

/-- `index * rows / worker_count`. -/
def bandBound (index : Nat) (rows : Int32) (workerCount : Nat) : Int32 :=
  Int32.ofNat index * rows / Int32.ofNat workerCount

/-- The same, with no result where a step of it leaves `int`. -/
def checkedBandBound (index rows workerCount : Int) : Option Int := do
  let product ← CIntType.int32.mul index rows
  CIntType.int32.div product workerCount

/-- The band of a worker, computed without leaving `int`. -/
def checkedBand (index rows workerCount : Int) : Option (Int × Int) := do
  let start ← checkedBandBound index rows workerCount
  let next ← CIntType.int32.add index 1
  let stop ← checkedBandBound next rows workerCount
  return (start, stop)

/-- The rows of the one call that a pool without workers makes. -/
def inlineBand (rows : Int32) : Int32 × Int32 := (0, rows)

/-- The arguments with which `cart_worker_pool_init` goes on. -/
def cartWorkerPoolAccepts (workerCount : Int) (rows : Int32) : Prop :=
  ¬(workerCount < 0 ∨ workerCount > cartWorkerPoolMax ∨ rows ≤ 0)

namespace CartWorkerPool

variable {J S : Type} {n : Nat}

def created (n : Nat) (rows : Int32) : CartWorkerPool J S n where
  active := false
  workerCount := n
  rows
  slots := fun _ => none
  job := none
  generation := 0
  startWaiting := ∅
  stopWaiting := ∅
  startupMutex := none
  startupReady := false
  startupReleased := 0
  shuttingDown := false
  dispatcher := .create 0
  worker := fun _ => .unborn
  log := []

abbrev goto (s : CartWorkerPool J S n) (point : DispatcherPoint J S n) : CartWorkerPool J S n :=
  { s with dispatcher := point }

abbrev put (s : CartWorkerPool J S n) (i : Fin n) (point : WorkerPoint J S) :
    CartWorkerPool J S n :=
  { s with worker := Function.update s.worker i point }

abbrev record (s : CartWorkerPool J S n) (event : PoolEvent J S n) : CartWorkerPool J S n :=
  { s with log := s.log ++ [event] }

def acquire (s : CartWorkerPool J S n) (thread : PoolThread n) : Option (CartWorkerPool J S n) :=
  if s.startupMutex = none then some { s with startupMutex := some thread } else none

abbrev unlocked (s : CartWorkerPool J S n) : CartWorkerPool J S n := { s with startupMutex := none }

def HasExited (s : CartWorkerPool J S n) (i : Fin n) : Bool :=
  match s.worker i with
  | .exited => true
  | _ => false

/-- The next step of a worker, unless it is blocked. -/
def workerStep (s : CartWorkerPool J S n) (i : Fin n) : Option (CartWorkerPool J S n) :=
  match s.worker i with
  | .unborn | .exited => none
  | .lock | .asleep => (s.acquire (some i)).map (·.put i .gate)
  | .gate => if s.startupReady then some (s.put i .checkDown) else some (s.unlocked.put i .asleep)
  | .checkDown => if s.shuttingDown then some (s.put i .refuse) else some (s.put i .release)
  | .refuse => some (s.unlocked.put i .exited)
  | .release => some { s.put i .unlock with startupReleased := s.startupReleased + 1 }
  | .unlock => some (s.unlocked.put i .arriveStart)
  | .arriveStart =>
      some { s.put i .waitStart with
        startWaiting := Barrier.arrive (n + 1) s.startWaiting (some i) }
  | .waitStart => if some i ∈ s.startWaiting then none else some (s.put i .readDown)
  | .readDown => if s.shuttingDown then some (s.put i .exited) else some (s.put i .readBounds)
  | .readBounds =>
      some (s.put i (.readJob (bandBound i s.rows s.workerCount)
        (bandBound (i + 1) s.rows s.workerCount)))
  | .readJob start stop => some (s.put i (.readSlot start stop s.job))
  | .readSlot start stop job => some (s.put i (.readGeneration start stop job (s.slots i)))
  | .readGeneration start stop job slot => some (s.put i (.call start stop job slot s.generation))
  | .call start stop job slot generation =>
      some ((s.put i .running).record (.began i job slot start stop generation))
  | .running => some ((s.put i .arriveStop).record (.ended i))
  | .arriveStop =>
      some { s.put i .waitStop with stopWaiting := Barrier.arrive (n + 1) s.stopWaiting (some i) }
  | .waitStop => if some i ∈ s.stopWaiting then none else some (s.put i .arriveStart)

/-- `pthread_join` of a worker, and then the next one. -/
def joinStep (s : CartWorkerPool J S n) (index count : Nat) (next done : CartWorkerPool J S n) :
    Option (CartWorkerPool J S n) :=
  if index < count then
    if h : index < n then if s.HasExited ⟨index, h⟩ then some next else none else none
  else some done

/-- The next step of the dispatching thread, unless it is blocked. -/
def dispatcherStep (s : CartWorkerPool J S n) :
    DispatcherMove J S n → Option (CartWorkerPool J S n)
  | .createFails =>
      match s.dispatcher with
      | .create index => if index < n then some (s.goto (.failLock index)) else none
      | _ => none
  | .dispatch call =>
      match s.dispatcher with
      | .idle => some ((s.goto (.writeJob call)).record (.dispatch call))
      | _ => none
  | .shutdown =>
      match s.dispatcher with
      | .idle => some ({ s.goto .setDown with active := false }.record .shutdown)
      | _ => none
  | .go =>
      match s.dispatcher with
      | .create index =>
          if h : index < n then some ((s.goto (.create (index + 1))).put ⟨index, h⟩ .lock)
          else some (s.goto .openLock)
      | .failLock index => (s.acquire none).map (·.goto (.failDown index))
      | .failDown index => some { s.goto (.failReady index) with shuttingDown := true }
      | .failReady index => some { s.goto (.failUnlock index) with startupReady := true }
      | .failUnlock index => some (s.unlocked.goto (.failJoin index 0))
      | .failJoin index started =>
          s.joinStep started index (s.goto (.failJoin index (started + 1)))
            { s.goto .failed with workerCount := 0, rows := 0 }
      | .openLock => (s.acquire none).map (·.goto .openReady)
      | .openReady => some { s.goto .await with startupReady := true }
      | .await =>
          if s.startupReleased < s.workerCount then some (s.unlocked.goto .awaitAsleep)
          else some (s.goto .openUnlock)
      | .awaitAsleep => (s.acquire none).map (·.goto .await)
      | .openUnlock => some { s.unlocked.goto .idle with active := true }
      | .writeJob call => some { s.goto (.writeSlots call) with job := some call.job }
      | .writeSlots call =>
          some { s.goto (.writeGeneration call) with slots := fun i => some (call.slots i) }
      | .writeGeneration call =>
          some { s.goto (.arriveStart call) with generation := call.generation }
      | .arriveStart call =>
          some { s.goto (.waitStart call) with
            startWaiting := Barrier.arrive (n + 1) s.startWaiting none }
      | .waitStart call => if none ∈ s.startWaiting then none else some (s.goto (.arriveStop call))
      | .arriveStop call =>
          some { s.goto (.waitStop call) with
            stopWaiting := Barrier.arrive (n + 1) s.stopWaiting none }
      | .waitStop _ =>
          if none ∈ s.stopWaiting then none else some ((s.goto .idle).record .returned)
      | .setDown => some { s.goto .lastArrive with shuttingDown := true }
      | .lastArrive =>
          some { s.goto .lastWait with startWaiting := Barrier.arrive (n + 1) s.startWaiting none }
      | .lastWait => if none ∈ s.startWaiting then none else some (s.goto (.join 0))
      | .join index =>
          s.joinStep index s.workerCount (s.goto (.join (index + 1)))
            ({ s.goto .closed with workerCount := 0, rows := 0 }.record .closed)
      | .failed | .idle | .closed => none

def next (s : CartWorkerPool J S n) : PoolMove J S n → Option (CartWorkerPool J S n)
  | .dispatcher move => s.dispatcherStep move
  | .worker i => s.workerStep i

def Steps (s : CartWorkerPool J S n) (move : PoolMove J S n) (t : CartWorkerPool J S n) : Prop :=
  s.next move = some t

end CartWorkerPool

end VitaLinuxPort
