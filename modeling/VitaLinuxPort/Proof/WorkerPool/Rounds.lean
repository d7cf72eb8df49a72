import Mathlib.Data.Finset.Card
import Mathlib.Data.Fintype.Option
import VitaLinuxPort.Cart.WorkerPool
import VitaLinuxPort.Lib.Run

/-!
# The rounds of the worker pool

The log of a pool that works in lockstep is a sequence of rounds, one for each dispatch: its call, the
events of the workers, its return. In a round every worker begins and ends the job once, on its own
slot and band and with the generation of the call. The last round may be under way.
-/

namespace VitaLinuxPort

variable {J S : Type} {n : Nat}

def PoolEvent.ofWorker? : PoolEvent J S n → Option (Fin n)
  | .began i _ _ _ _ _ | .ended i => some i
  | .dispatch _ | .returned | .shutdown | .closed => none

/-- The events of one worker. -/
def eventsBy (i : Fin n) (events : List (PoolEvent J S n)) : List (PoolEvent J S n) :=
  events.filter fun event => event.ofWorker? = some i

@[simp] theorem eventsBy_nil (i : Fin n) : eventsBy i ([] : List (PoolEvent J S n)) = [] := rfl

theorem eventsBy_concat_self {i : Fin n} {event : PoolEvent J S n} (h : event.ofWorker? = some i)
    (events : List (PoolEvent J S n)) :
    eventsBy i (events ++ [event]) = eventsBy i events ++ [event] := by
  simp [eventsBy, h]

theorem eventsBy_concat_ne {i j : Fin n} {event : PoolEvent J S n} (h : event.ofWorker? = some i)
    (hne : j ≠ i) (events : List (PoolEvent J S n)) :
    eventsBy j (events ++ [event]) = eventsBy j events := by
  simp [eventsBy, h, Ne.symm hne]

/-- What worker `i` does in the round of the call. -/
def PoolDispatch.turn (call : PoolDispatch J S n) (rows : Int32) (i : Fin n) :
    List (PoolEvent J S n) :=
  [.began i (some call.job) (some (call.slots i)) (bandBound i rows n) (bandBound (i + 1) rows n)
      call.generation,
    .ended i]

structure PoolRound (J S : Type) (n : Nat) where
  call : PoolDispatch J S n
  events : List (PoolEvent J S n)

def PoolRound.log (round : PoolRound J S n) : List (PoolEvent J S n) :=
  .dispatch round.call :: round.events ++ [.returned]

/-- Every event of the round is a worker's, and no worker has done more than its turn. -/
structure PoolRound.UnderWay (rows : Int32) (round : PoolRound J S n) : Prop where
  ofWorkers : ∀ event ∈ round.events, event.ofWorker?.isSome = true
  turns : ∀ i, eventsBy i round.events <+: round.call.turn rows i

structure PoolRound.Full (rows : Int32) (round : PoolRound J S n) : Prop where
  ofWorkers : ∀ event ∈ round.events, event.ofWorker?.isSome = true
  turns : ∀ i, eventsBy i round.events = round.call.turn rows i

theorem PoolRound.Full.underWay {rows : Int32} {round : PoolRound J S n} (h : round.Full rows) :
    round.UnderWay rows :=
  ⟨h.ofWorkers, fun i => h.turns i ▸ List.prefix_refl _⟩

/-- The log is full rounds and then these events. -/
def Logged (rows : Int32) (log current : List (PoolEvent J S n)) : Prop :=
  ∃ rounds : List (PoolRound J S n), (∀ round ∈ rounds, round.Full rows) ∧
    log = rounds.flatMap PoolRound.log ++ current

theorem Logged.concat {rows : Int32} {log current : List (PoolEvent J S n)}
    (h : Logged rows log current) (event : PoolEvent J S n) :
    Logged rows (log ++ [event]) (current ++ [event]) := by
  obtain ⟨rounds, hfull, rfl⟩ := h
  exact ⟨rounds, hfull, List.append_assoc _ _ _⟩

/-- The return of a full round. -/
theorem Logged.returned {rows : Int32} {log : List (PoolEvent J S n)} {round : PoolRound J S n}
    (h : Logged rows log (.dispatch round.call :: round.events)) (hround : round.Full rows) :
    Logged rows (log ++ [.returned]) [] := by
  obtain ⟨rounds, hfull, rfl⟩ := h
  refine ⟨rounds ++ [round], ?_, ?_⟩
  · intro other hother
    rcases List.mem_append.mp hother with hother | hother
    · exact hfull other hother
    · rw [List.mem_singleton.mp hother]
      exact hround
  · simp [PoolRound.log, List.flatMap_append]

/-- The dispatching thread is about to write what the workers read. -/
def DispatcherPoint.Writes : DispatcherPoint J S n → Prop
  | .writeJob _ | .writeSlots _ | .writeGeneration _ => True
  | _ => False

/-- The worker is about to read what the dispatching thread writes. -/
def WorkerPoint.Reads : WorkerPoint J S → Prop
  | .readJob _ _ | .readSlot _ _ _ | .readGeneration _ _ _ _ => True
  | _ => False

/-- What follows the full rounds in the log while the dispatching thread is at this point. -/
def Currently (rows : Int32) (current : List (PoolEvent J S n)) : DispatcherPoint J S n → Prop
  | .writeJob call | .writeSlots call | .writeGeneration call | .arriveStart call | .waitStart call
  | .arriveStop call | .waitStop call =>
      ∃ events, current = .dispatch call :: events ∧ PoolRound.UnderWay rows ⟨call, events⟩
  | .setDown | .lastArrive | .lastWait | .join _ => current = [.shutdown]
  | .closed => current = [.shutdown, .closed]
  | _ => current = []

/-- The workers and the dispatching thread are in lockstep. -/
structure CartWorkerPool.Lockstep (rows : Int32) (s : CartWorkerPool J S n) : Prop where
  rounds : ∃ current, Logged rows s.log current ∧ Currently rows current s.dispatcher
  apart : s.dispatcher.Writes → ∀ i, ¬ (s.worker i).Reads
  closed : s.dispatcher = .closed → ∀ i, s.worker i = .exited

end VitaLinuxPort
