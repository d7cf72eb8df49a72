import VitaLinuxPort.Proof.WorkerPool.Rounds

/-!
# Lockstep

A pool that starts lives through eras that only the two barriers and the startup gate end. Until the
gate is open no worker is past it. Then the workers are outside a round, at the start barrier or on
their way to it, and the dispatching thread alone touches what they read; when the last thread reaches
the start barrier they are inside, and when the last reaches the stop barrier they are outside again.
A shutdown opens the start barrier a last time.
-/

namespace VitaLinuxPort

namespace WorkerPoint

variable {J S : Type} {n : Nat}

/-- Before the gate. -/
def Gated : WorkerPoint J S → Prop
  | .lock | .gate | .asleep => True
  | _ => False

/-- The gate is open and the pool has failed to start. -/
def Refused : WorkerPoint J S → Prop
  | .lock | .gate | .asleep | .checkDown | .refuse | .exited => True
  | _ => False

/-- Through the gate, in the first round. -/
def passed : WorkerPoint J S → Bool
  | .unlock | .arriveStart | .waitStart => true
  | _ => false

/-- The gate is open. -/
def Entering : WorkerPoint J S → Prop
  | .lock | .gate | .asleep | .checkDown | .release | .unlock | .arriveStart | .waitStart => True
  | _ => False

def Outside : WorkerPoint J S → Prop
  | .unlock | .arriveStart | .waitStart | .waitStop => True
  | _ => False

/-- In the round of the call, with what was read of it. -/
def Inside (rows : Int32) (call : PoolDispatch J S n) (i : Fin n) : WorkerPoint J S → Prop
  | .waitStart | .readDown | .readBounds | .running | .arriveStop | .waitStop => True
  | .readJob start stop => start = bandBound i rows n ∧ stop = bandBound (i + 1) rows n
  | .readSlot start stop job =>
      start = bandBound i rows n ∧ stop = bandBound (i + 1) rows n ∧ job = some call.job
  | .readGeneration start stop job slot =>
      start = bandBound i rows n ∧ stop = bandBound (i + 1) rows n ∧ job = some call.job ∧
        slot = some (call.slots i)
  | .call start stop job slot generation =>
      start = bandBound i rows n ∧ stop = bandBound (i + 1) rows n ∧ job = some call.job ∧
        slot = some (call.slots i) ∧ generation = call.generation
  | _ => False

/-- How much of its turn a worker at this point has done. -/
def done (rows : Int32) (call : PoolDispatch J S n) (i : Fin n) :
    WorkerPoint J S → List (PoolEvent J S n)
  | .running => (call.turn rows i).take 1
  | .arriveStop | .waitStop => call.turn rows i
  | _ => []

def Leaving : WorkerPoint J S → Prop
  | .waitStart | .readDown | .exited => True
  | _ => False

def AtStart : WorkerPoint J S → Prop
  | .waitStart => True
  | _ => False

def AtStop : WorkerPoint J S → Prop
  | .waitStop => True
  | _ => False

end WorkerPoint

namespace DispatcherPoint

variable {J S : Type} {n : Nat}

def AtStart : DispatcherPoint J S n → Prop
  | .waitStart _ | .lastWait => True
  | _ => False

def AtStop : DispatcherPoint J S n → Prop
  | .waitStop _ => True
  | _ => False

end DispatcherPoint

namespace CartWorkerPool

variable {J S : Type} {n : Nat} {rows : Int32} {s t : CartWorkerPool J S n}

/-- The threads whose points are these, at which a barrier is waited at. -/
def At (ofWorker : WorkerPoint J S → Prop) (ofDispatcher : DispatcherPoint J S n → Prop)
    (s : CartWorkerPool J S n) : PoolThread n → Prop
  | some i => ofWorker (s.worker i)
  | none => ofDispatcher s.dispatcher

abbrev AtStart (s : CartWorkerPool J S n) : PoolThread n → Prop :=
  s.At WorkerPoint.AtStart DispatcherPoint.AtStart

abbrev AtStop (s : CartWorkerPool J S n) : PoolThread n → Prop :=
  s.At WorkerPoint.AtStop DispatcherPoint.AtStop

/-- What `cart_worker_pool_init` set and only the end of the pool changes. -/
def Sized (rows : Int32) (s : CartWorkerPool J S n) : Prop := s.rows = rows ∧ s.workerCount = n

/-- The workers before `index` are created and the gate is closed. -/
structure Starting (rows : Int32) (index : Nat) (s : CartWorkerPool J S n) : Prop where
  dispatcher : match s.dispatcher with
    | .create k | .failLock k | .failDown k => k = index ∧ s.shuttingDown = false
    | .failReady k => k = index ∧ s.shuttingDown = true
    | .openLock | .openReady => n ≤ index ∧ s.shuttingDown = false
    | _ => False
  ready : s.startupReady = false
  released : s.startupReleased = 0
  worker : ∀ i : Fin n, if i < index then (s.worker i).Gated else s.worker i = .unborn
  start : s.startWaiting = ∅
  stop : s.stopWaiting = ∅
  sized : Sized rows s
  log : s.log = []

/-- A worker could not be created. -/
structure Failing (s : CartWorkerPool J S n) : Prop where
  dispatcher : match s.dispatcher with
    | .failUnlock _ | .failJoin _ _ | .failed => True
    | _ => False
  down : s.shuttingDown = true
  worker : ∀ i, (s.worker i).Refused ∨ s.worker i = .unborn
  log : s.log = []

/-- The gate is open and the dispatching thread waits until all workers are through it. -/
structure Opening (rows : Int32) (s : CartWorkerPool J S n) : Prop where
  dispatcher : match s.dispatcher with
    | .await | .awaitAsleep => True
    | _ => False
  ready : s.startupReady = true
  down : s.shuttingDown = false
  released : s.startupReleased = (Finset.univ.filter fun i => (s.worker i).passed).card
  worker : ∀ i, (s.worker i).Entering
  start : ∀ q, q ∈ s.startWaiting ↔ s.AtStart q
  stop : s.stopWaiting = ∅
  sized : Sized rows s
  log : s.log = []

/-- The workers are outside a round. -/
structure Outside (rows : Int32) (s : CartWorkerPool J S n) : Prop where
  dispatcher : match s.dispatcher with
    | .openUnlock | .idle => s.shuttingDown = false ∧ Logged rows s.log []
    | .writeJob call => s.shuttingDown = false ∧ Logged rows s.log [.dispatch call]
    | .writeSlots call =>
        s.shuttingDown = false ∧ Logged rows s.log [.dispatch call] ∧ s.job = some call.job
    | .writeGeneration call =>
        s.shuttingDown = false ∧ Logged rows s.log [.dispatch call] ∧ s.job = some call.job ∧
          s.slots = fun i => some (call.slots i)
    | .arriveStart call | .waitStart call =>
        s.shuttingDown = false ∧ Logged rows s.log [.dispatch call] ∧ s.job = some call.job ∧
          (s.slots = fun i => some (call.slots i)) ∧ s.generation = call.generation
    | .waitStop call =>
        s.shuttingDown = false ∧ ∃ events, Logged rows s.log (.dispatch call :: events) ∧
          PoolRound.Full rows ⟨call, events⟩
    | .setDown => s.shuttingDown = false ∧ Logged rows s.log [.shutdown]
    | .lastArrive | .lastWait => s.shuttingDown = true ∧ Logged rows s.log [.shutdown]
    | _ => False
  worker : ∀ i, (s.worker i).Outside
  stop : s.stopWaiting = ∅
  sized : Sized rows s

/-- The workers are in the round of the call. -/
structure Inside (rows : Int32) (call : PoolDispatch J S n) (s : CartWorkerPool J S n) : Prop where
  dispatcher : match s.dispatcher with
    | .waitStart other | .arriveStop other | .waitStop other => other = call
    | _ => False
  down : s.shuttingDown = false
  job : s.job = some call.job
  slots : s.slots = fun i => some (call.slots i)
  generation : s.generation = call.generation
  worker : ∀ i, (s.worker i).Inside rows call i
  log : ∃ events, Logged rows s.log (.dispatch call :: events) ∧
    (∀ event ∈ events, event.ofWorker?.isSome = true) ∧
    ∀ i, eventsBy i events = (s.worker i).done rows call i
  start : s.startWaiting = ∅
  sized : Sized rows s

/-- The workers find the flag set. -/
structure Closing (rows : Int32) (s : CartWorkerPool J S n) : Prop where
  dispatcher : match s.dispatcher with
    | .lastWait => s.workerCount = n ∧ Logged rows s.log [.shutdown]
    | .join index => s.workerCount = n ∧ Logged rows s.log [.shutdown] ∧
        ∀ i : Fin n, i < index → s.worker i = .exited
    | .closed => Logged rows s.log [.shutdown, .closed] ∧ ∀ i, s.worker i = .exited
    | _ => False
  down : s.shuttingDown = true
  worker : ∀ i, (s.worker i).Leaving
  start : s.startWaiting = ∅

inductive Era (rows : Int32) (s : CartWorkerPool J S n) : Prop
  | starting (index : Nat) (h : Starting rows index s)
  | failing (h : Failing s)
  | opening (h : Opening rows s)
  | outside (h : Outside rows s) (start : ∀ q, q ∈ s.startWaiting ↔ s.AtStart q)
  | inside (call : PoolDispatch J S n) (h : Inside rows call s)
      (stop : ∀ q, q ∈ s.stopWaiting ↔ s.AtStop q)
  | closing (h : Closing rows s)

theorem acquire_map {thread : PoolThread n} {f : CartWorkerPool J S n → CartWorkerPool J S n}
    (h : (s.acquire thread).map f = some t) : t = f { s with startupMutex := some thread } := by
  unfold acquire at h
  split at h
  · exact (Option.some.inj h).symm
  · cases h

theorem forall_put {P : Fin n → WorkerPoint J S → Prop} (h : ∀ j, P j (s.worker j)) {i : Fin n}
    {point : WorkerPoint J S} (hpoint : P i point) :
    ∀ j, P j (Function.update s.worker i point j) := by
  rw [Function.forall_update_iff]
  exact ⟨hpoint, fun j _ => h j⟩

theorem Starting.workerStep {index : Nat} (h : Starting rows index s) {i : Fin n}
    (hstep : s.workerStep i = some t) : Starting rows index t := by
  have hi := h.worker i
  have hput : ∀ point : WorkerPoint J S, s.worker i ≠ .unborn → point.Gated → ∀ j : Fin n,
      if j < index then (Function.update s.worker i point j).Gated
      else Function.update s.worker i point j = .unborn := by
    intro point hborn hgated
    refine forall_put h.worker (P := fun j point => if j < index then point.Gated else point = .unborn)
      ?_
    split
    · exact hgated
    · next hlate =>
        rw [if_neg hlate] at hi
        exact absurd hi hborn
  rcases hpoint : s.worker i <;> rw [CartWorkerPool.workerStep, hpoint] at hstep
  case lock | asleep =>
      cases acquire_map hstep
      exact { h with worker := hput .gate (by simp [hpoint]) trivial }
  case gate =>
      rw [h.ready] at hstep
      cases hstep
      exact { h with worker := hput .asleep (by simp [hpoint]) trivial }
  case unborn => cases hstep
  all_goals simp [hpoint, WorkerPoint.Gated] at hi

theorem Failing.workerStep (h : Failing s) {i : Fin n} (hstep : s.workerStep i = some t) :
    Failing t := by
  have hi := h.worker i
  have hput : ∀ point : WorkerPoint J S, point.Refused → ∀ j : Fin n,
      (Function.update s.worker i point j).Refused ∨ Function.update s.worker i point j = .unborn :=
    fun point hrefused => forall_put h.worker
      (P := fun _ point => point.Refused ∨ point = .unborn) (.inl hrefused)
  rcases hpoint : s.worker i <;> simp only [CartWorkerPool.workerStep, hpoint] at hstep
  case lock | asleep =>
      cases acquire_map hstep
      exact { h with worker := hput .gate trivial }
  case gate =>
      split at hstep
      · cases hstep
        exact { h with worker := hput .checkDown trivial }
      · cases hstep
        exact { h with worker := hput .asleep trivial }
  case checkDown =>
      rw [h.down] at hstep
      cases hstep
      exact { h with worker := hput .refuse trivial }
  case refuse =>
      cases hstep
      exact { h with worker := hput .exited trivial }
  case unborn | exited => cases hstep
  all_goals simp [hpoint, WorkerPoint.Refused] at hi

section Barriers

variable {ofWorker : WorkerPoint J S → Prop} {ofDispatcher : DispatcherPoint J S n → Prop}
  {waiting : Finset (PoolThread n)}

theorem at_put (h : ∀ q, q ∈ waiting ↔ s.At ofWorker ofDispatcher q) {i : Fin n}
    {point : WorkerPoint J S} (hsame : ofWorker point ↔ ofWorker (s.worker i)) :
    ∀ q, q ∈ waiting ↔ (s.put i point).At ofWorker ofDispatcher q := by
  intro q
  rw [h]
  cases q with
  | none => rfl
  | some j =>
      by_cases hj : j = i
      · subst hj
        simp [At, hsame]
      · simp [At, hj]

theorem at_goto (h : ∀ q, q ∈ waiting ↔ s.At ofWorker ofDispatcher q)
    {point : DispatcherPoint J S n} (hsame : ofDispatcher point ↔ ofDispatcher s.dispatcher) :
    ∀ q, q ∈ waiting ↔ (s.goto point).At ofWorker ofDispatcher q := by
  intro q
  rw [h]
  cases q with
  | none => exact hsame.symm
  | some j => rfl

private theorem card_poolThread : Fintype.card (PoolThread n) = n + 1 := by
  simp

/-- The barrier's rule for a worker that reaches it. -/
theorem arrive_put (h : ∀ q, q ∈ waiting ↔ s.At ofWorker ofDispatcher q) (i : Fin n)
    (point : WorkerPoint J S) (hpoint : ofWorker point) :
    ((∀ q, (s.put i point).At ofWorker ofDispatcher q) ∧
        Barrier.arrive (n + 1) waiting (some i) = ∅) ∨
      (∃ q, ¬ (s.put i point).At ofWorker ofDispatcher q) ∧
        ∀ q, q ∈ Barrier.arrive (n + 1) waiting (some i) ↔
          (s.put i point).At ofWorker ofDispatcher q := by
  rw [← card_poolThread]
  refine Barrier.arrive_cases h (by simpa [At] using hpoint) fun q hq => ?_
  cases q with
  | none => rfl
  | some j =>
      have hj : j ≠ i := fun heq => hq (heq ▸ rfl)
      simp [At, hj]

/-- And for the dispatching thread. -/
theorem arrive_goto (h : ∀ q, q ∈ waiting ↔ s.At ofWorker ofDispatcher q)
    (point : DispatcherPoint J S n) (hpoint : ofDispatcher point) :
    ((∀ q, (s.goto point).At ofWorker ofDispatcher q) ∧
        Barrier.arrive (n + 1) waiting none = ∅) ∨
      (∃ q, ¬ (s.goto point).At ofWorker ofDispatcher q) ∧
        ∀ q, q ∈ Barrier.arrive (n + 1) waiting none ↔
          (s.goto point).At ofWorker ofDispatcher q := by
  rw [← card_poolThread]
  refine Barrier.arrive_cases h hpoint fun q hq => ?_
  cases q with
  | none => exact absurd rfl hq
  | some j => rfl

end Barriers

/-- `startup_released` counts the workers that are through the gate. -/
theorem released_put {i : Fin n} {point : WorkerPoint J S}
    (hsame : point.passed = (s.worker i).passed) :
    (Finset.univ.filter fun j => ((s.put i point).worker j).passed).card =
      (Finset.univ.filter fun j => (s.worker j).passed).card := by
  congr 1
  refine Finset.filter_congr fun j _ => ?_
  by_cases hj : j = i
  · subst hj
    simp [hsame]
  · simp [hj]

theorem released_put_succ {i : Fin n} {point : WorkerPoint J S} (hpoint : point.passed = true)
    (hbefore : (s.worker i).passed = false) :
    (Finset.univ.filter fun j => ((s.put i point).worker j).passed).card =
      (Finset.univ.filter fun j => (s.worker j).passed).card + 1 := by
  have hinsert : (Finset.univ.filter fun j => ((s.put i point).worker j).passed) =
      insert i (Finset.univ.filter fun j => (s.worker j).passed) := by
    ext j
    by_cases hj : j = i
    · subst hj
      simp [hpoint]
    · simp [hj]
  rw [hinsert, Finset.card_insert_of_notMem (by simp [hbefore])]

theorem Opening.put (h : Opening rows s) (i : Fin n) (point : WorkerPoint J S)
    (hentering : point.Entering) (hpassed : point.passed = (s.worker i).passed)
    (hstart : point.AtStart ↔ (s.worker i).AtStart) : Opening rows (s.put i point) :=
  { h with
    released := h.released.trans (released_put hpassed).symm
    worker := forall_put h.worker hentering
    start := at_put h.start hstart }

theorem Opening.workerStep (h : Opening rows s) {i : Fin n} (hstep : s.workerStep i = some t) :
    Opening rows t := by
  have hi := h.worker i
  rcases hpoint : s.worker i <;> rw [CartWorkerPool.workerStep, hpoint] at hstep
  case lock | asleep =>
      cases acquire_map hstep
      have hput := h.put i .gate trivial (by rw [hpoint]; rfl) (by rw [hpoint]; rfl)
      exact { hput with }
  case gate =>
      rw [h.ready] at hstep
      cases hstep
      exact h.put i _ trivial (by rw [hpoint]; rfl) (by rw [hpoint]; rfl)
  case checkDown =>
      rw [h.down] at hstep
      cases hstep
      exact h.put i _ trivial (by rw [hpoint]; rfl) (by rw [hpoint]; rfl)
  case release =>
      -- the worker counts itself
      cases hstep
      exact { h with
        released := (congrArg (· + 1) h.released).trans
          (released_put_succ rfl (by rw [hpoint]; rfl)).symm
        worker := forall_put h.worker trivial
        start := at_put h.start (by rw [hpoint]; rfl) }
  case unlock =>
      cases hstep
      have hput := h.put i .arriveStart trivial (by rw [hpoint]; rfl) (by rw [hpoint]; rfl)
      exact { hput with }
  case arriveStart =>
      cases hstep
      rcases arrive_put h.start i .waitStart trivial with ⟨hall, _⟩ | ⟨_, hwaiting⟩
      · -- the dispatching thread is not at the barrier
        have hdispatcher := h.dispatcher
        have hnone : s.dispatcher.AtStart := hall none
        revert hnone hdispatcher
        rcases s.dispatcher <;> simp [DispatcherPoint.AtStart]
      · exact { h with
          released := h.released.trans (released_put (by rw [hpoint]; rfl)).symm
          worker := forall_put h.worker trivial
          start := hwaiting }
  case waitStart =>
      rw [if_pos ((h.start (some i)).mpr (by simp [At, hpoint, WorkerPoint.AtStart]))] at hstep
      cases hstep
  all_goals simp [hpoint, WorkerPoint.Entering] at hi

/-- The last thread has reached the start barrier: the round begins, or the pool closes. -/
theorem Outside.startOpens (h : Outside rows s) (hall : ∀ q, s.AtStart q) :
    Era rows { s with startWaiting := ∅ } := by
  have hnone : s.dispatcher.AtStart := hall none
  have hworker : ∀ i, s.worker i = .waitStart := by
    intro i
    have hi : (s.worker i).AtStart := hall (some i)
    revert hi
    rcases s.worker i <;> simp [WorkerPoint.AtStart]
  have hdispatcher := h.dispatcher
  rcases hpoint : s.dispatcher <;> rw [hpoint] at hdispatcher hnone <;>
    simp only [DispatcherPoint.AtStart] at hnone
  case waitStart call =>
      obtain ⟨hdown, hlog, hjob, hslots, hgeneration⟩ := hdispatcher
      refine .inside call
        { dispatcher := by simp
          down := hdown
          job := hjob
          slots := hslots
          generation := hgeneration
          worker := fun i => by simp [hworker i, WorkerPoint.Inside]
          log := ⟨[], hlog, by simp, fun i => by simp [hworker i, WorkerPoint.done]⟩
          start := rfl
          sized := h.sized } fun q => ?_
      cases q with
      | none => simp [h.stop, At, DispatcherPoint.AtStop]
      | some i => simp [h.stop, At, hworker i, WorkerPoint.AtStop]
  case lastWait =>
      obtain ⟨hdown, hlog⟩ := hdispatcher
      exact .closing
        { dispatcher := by simpa [hpoint] using ⟨h.sized.2, hlog⟩
          down := hdown
          worker := fun i => by simp [hworker i, WorkerPoint.Leaving]
          start := rfl }

theorem Outside.workerStep (h : Outside rows s) (hstart : ∀ q, q ∈ s.startWaiting ↔ s.AtStart q)
    {i : Fin n} (hstep : s.workerStep i = some t) : Era rows t := by
  have hi := h.worker i
  rcases hpoint : s.worker i <;> rw [CartWorkerPool.workerStep, hpoint] at hstep
  case unlock =>
      cases hstep
      exact .outside { h with worker := forall_put h.worker trivial }
        (at_put hstart (by rw [hpoint]; rfl))
  case arriveStart =>
      cases hstep
      have hput : Outside rows (s.put i .waitStart) := { h with worker := forall_put h.worker trivial }
      rcases arrive_put hstart i .waitStart trivial with ⟨hall, hopens⟩ | ⟨_, hwaiting⟩
      · rw [hopens]
        exact hput.startOpens hall
      · exact .outside { hput with } hwaiting
  case waitStart =>
      rw [if_pos ((hstart (some i)).mpr (by simp [At, hpoint, WorkerPoint.AtStart]))] at hstep
      cases hstep
  case waitStop =>
      rw [h.stop, if_neg (Finset.notMem_empty _)] at hstep
      cases hstep
      exact .outside { h with worker := forall_put h.worker trivial }
        (at_put hstart (by rw [hpoint]; rfl))
  all_goals simp [hpoint, WorkerPoint.Outside] at hi

/-- The last thread has reached the stop barrier: every worker has done its turn. -/
theorem Inside.stopOpens {call : PoolDispatch J S n} (h : Inside rows call s)
    (hall : ∀ q, s.AtStop q) : Era rows { s with stopWaiting := ∅ } := by
  have hnone : s.dispatcher.AtStop := hall none
  have hworker : ∀ i, s.worker i = .waitStop := by
    intro i
    have hi : (s.worker i).AtStop := hall (some i)
    revert hi
    rcases s.worker i <;> simp [WorkerPoint.AtStop]
  obtain ⟨events, hlog, hof, hturns⟩ := h.log
  have hfull : PoolRound.Full rows ⟨call, events⟩ :=
    ⟨hof, fun i => by rw [hturns i, hworker i]; rfl⟩
  have hdispatcher := h.dispatcher
  rcases hpoint : s.dispatcher <;> rw [hpoint] at hdispatcher hnone <;>
    simp only [DispatcherPoint.AtStop] at hnone
  case waitStop other =>
      cases hdispatcher
      refine .outside
        { dispatcher := by simpa [hpoint] using ⟨h.down, events, hlog, hfull⟩
          worker := fun i => by simp [hworker i, WorkerPoint.Outside]
          stop := rfl
          sized := h.sized } fun q => ?_
      cases q with
      | none => simp [h.start, At, DispatcherPoint.AtStart]
      | some i => simp [h.start, At, hworker i, WorkerPoint.AtStart]

section Turn

variable {call : PoolDispatch J S n} {i : Fin n}

/-- A step in which the worker leaves its turn where it is. -/
theorem Inside.put (h : Inside rows call s) (point : WorkerPoint J S)
    (hinside : point.Inside rows call i)
    (hdone : point.done rows call i = (s.worker i).done rows call i) :
    Inside rows call (s.put i point) := by
  obtain ⟨events, hlog, hof, hturns⟩ := h.log
  refine { h with
    worker := forall_put h.worker hinside
    log := ⟨events, hlog, hof, fun j => ?_⟩ }
  rw [hturns j]
  by_cases hj : j = i
  · subst hj
    simp [hdone]
  · simp [hj]

/-- A step that goes on with the turn. -/
theorem Inside.record (h : Inside rows call s) (point : WorkerPoint J S)
    (hinside : point.Inside rows call i) {event : PoolEvent J S n} (hevent : event.ofWorker? = some i)
    (hdone : point.done rows call i = (s.worker i).done rows call i ++ [event]) :
    Inside rows call ((s.put i point).record event) := by
  obtain ⟨events, hlog, hof, hturns⟩ := h.log
  refine { h with
    worker := forall_put h.worker hinside
    log := ⟨events ++ [event], hlog.concat event, ?_, fun j => ?_⟩ }
  · intro other hother
    rcases List.mem_append.mp hother with hother | hother
    · exact hof other hother
    · rw [List.mem_singleton.mp hother, hevent]
      rfl
  · by_cases hj : j = i
    · subst hj
      rw [eventsBy_concat_self hevent, hturns j]
      simp [hdone]
    · rw [eventsBy_concat_ne hevent hj, hturns j]
      simp [hj]

theorem Inside.workerStep (h : Inside rows call s) (hstop : ∀ q, q ∈ s.stopWaiting ↔ s.AtStop q)
    (hstep : s.workerStep i = some t) : Era rows t := by
  have hi := h.worker i
  have hquiet : ∀ point : WorkerPoint J S, point.Inside rows call i →
      point.done rows call i = (s.worker i).done rows call i →
      (point.AtStop ↔ (s.worker i).AtStop) → Era rows (s.put i point) :=
    fun point hinside hdone hsame => .inside call (h.put point hinside hdone) (at_put hstop hsame)
  rcases hpoint : s.worker i <;> rw [CartWorkerPool.workerStep, hpoint] at hstep <;>
    rw [hpoint] at hi hquiet
  case waitStart =>
      rw [h.start, if_neg (Finset.notMem_empty _)] at hstep
      cases hstep
      exact hquiet _ trivial rfl Iff.rfl
  case readDown =>
      rw [h.down] at hstep
      cases hstep
      exact hquiet _ trivial rfl Iff.rfl
  case readBounds =>
      cases hstep
      rw [h.sized.1, h.sized.2]
      exact hquiet _ ⟨rfl, rfl⟩ rfl Iff.rfl
  case readJob start stop =>
      cases hstep
      exact hquiet _ ⟨hi.1, hi.2, h.job⟩ rfl Iff.rfl
  case readSlot start stop job =>
      cases hstep
      obtain ⟨hfirst, hlast, hjob⟩ := hi
      exact hquiet _ ⟨hfirst, hlast, hjob, congrFun h.slots i⟩ rfl Iff.rfl
  case readGeneration start stop job slot =>
      cases hstep
      obtain ⟨hfirst, hlast, hjob, hslot⟩ := hi
      exact hquiet _ ⟨hfirst, hlast, hjob, hslot, h.generation⟩ rfl Iff.rfl
  case call start stop job slot generation =>
      -- the job begins
      cases hstep
      obtain ⟨rfl, rfl, rfl, rfl, rfl⟩ := hi
      refine .inside call (h.record .running trivial rfl (by rw [hpoint]; rfl)) ?_
      exact at_put hstop (by rw [hpoint]; rfl)
  case running =>
      -- and ends
      cases hstep
      refine .inside call (h.record .arriveStop trivial rfl (by rw [hpoint]; rfl)) ?_
      exact at_put hstop (by rw [hpoint]; rfl)
  case arriveStop =>
      cases hstep
      have hput := h.put .waitStop (show _ from trivial) (by rw [hpoint]; rfl)
      rcases arrive_put hstop i .waitStop trivial with ⟨hall, hopens⟩ | ⟨_, hwaiting⟩
      · rw [hopens]
        exact hput.stopOpens hall
      · exact .inside call { hput with } hwaiting
  case waitStop =>
      rw [if_pos ((hstop (some i)).mpr (by simp [At, hpoint, WorkerPoint.AtStop]))] at hstep
      cases hstep
  all_goals exact hi.elim

end Turn

theorem Closing.put (h : Closing rows s) {i : Fin n} (hlive : s.worker i ≠ .exited)
    {point : WorkerPoint J S} (hleaving : point.Leaving) : Closing rows (s.put i point) := by
  refine { h with
    dispatcher := ?_
    worker := forall_put h.worker hleaving }
  have hdispatcher := h.dispatcher
  rcases hpoint : s.dispatcher <;> rw [hpoint] at hdispatcher <;> simp only at hdispatcher ⊢
  case lastWait => exact hdispatcher
  case join index =>
      obtain ⟨hcount, hlog, hexited⟩ := hdispatcher
      refine ⟨hcount, hlog, fun j hj => ?_⟩
      have hne : j ≠ i := fun heq => hlive (heq ▸ hexited j hj)
      rw [Function.update_of_ne hne]
      exact hexited j hj
  case closed => exact absurd (hdispatcher.2 i) hlive

theorem Closing.workerStep (h : Closing rows s) {i : Fin n} (hstep : s.workerStep i = some t) :
    Closing rows t := by
  have hi := h.worker i
  rcases hpoint : s.worker i <;> rw [CartWorkerPool.workerStep, hpoint] at hstep
  case waitStart =>
      rw [h.start, if_neg (Finset.notMem_empty _)] at hstep
      cases hstep
      exact h.put (by simp [hpoint]) trivial
  case readDown =>
      rw [h.down] at hstep
      cases hstep
      exact h.put (by simp [hpoint]) trivial
  case exited => cases hstep
  all_goals simp [hpoint, WorkerPoint.Leaving] at hi

theorem Era.workerStep (h : Era rows s) {i : Fin n} (hstep : s.workerStep i = some t) :
    Era rows t := by
  cases h with
  | starting index h => exact .starting index (h.workerStep hstep)
  | failing h => exact .failing (h.workerStep hstep)
  | opening h => exact .opening (h.workerStep hstep)
  | outside h start => exact h.workerStep start hstep
  | inside call h stop => exact h.workerStep stop hstep
  | closing h => exact .closing (h.workerStep hstep)

/-- Where the dispatching thread has a choice. -/
theorem dispatcherStep_cases {move : DispatcherMove J S n} (h : s.dispatcherStep move = some t) :
    (∃ index, s.dispatcher = .create index ∧ t = s.goto (.failLock index)) ∨
      (s.dispatcher = .idle ∧
        ((∃ call, t = (s.goto (.writeJob call)).record (.dispatch call)) ∨
          t = { s.goto .setDown with active := false }.record .shutdown)) ∨
      move = .go := by
  cases move with
  | go => exact .inr (.inr rfl)
  | createFails =>
      rw [dispatcherStep] at h
      split at h
      · next index hpoint =>
          split at h
          · exact .inl ⟨index, hpoint, (Option.some.inj h).symm⟩
          · cases h
      · cases h
  | dispatch call =>
      rw [dispatcherStep] at h
      split at h
      · next hpoint => exact .inr (.inl ⟨hpoint, .inl ⟨call, (Option.some.inj h).symm⟩⟩)
      · cases h
  | shutdown =>
      rw [dispatcherStep] at h
      split at h
      · next hpoint => exact .inr (.inl ⟨hpoint, .inr (Option.some.inj h).symm⟩)
      · cases h

theorem Starting.create {index : Nat} (h : Starting rows index s) (hdown : s.shuttingDown = false)
    (hindex : index < n) :
    Starting rows (index + 1) ((s.goto (.create (index + 1))).put ⟨index, hindex⟩ .lock) where
  dispatcher := ⟨rfl, hdown⟩
  ready := h.ready
  released := h.released
  worker := by
    intro i
    by_cases hi : i = ⟨index, hindex⟩
    · subst hi
      simp [WorkerPoint.Gated]
    · have hold := h.worker i
      have hne : (i : Nat) ≠ index := fun heq => hi (Fin.ext heq)
      simp only [Function.update_of_ne hi]
      split at hold
      · rw [if_pos (by omega)]
        exact hold
      · rw [if_neg (by omega)]
        exact hold
  start := h.start
  stop := h.stop
  sized := h.sized
  log := h.log

/-- The gate opens on the workers that wait at it. -/
theorem Starting.openReady {index : Nat} (h : Starting rows index s) (hall : n ≤ index)
    (hdown : s.shuttingDown = false) :
    Opening rows { s.goto .await with startupReady := true } := by
  have hgated : ∀ i, (s.worker i).Gated := by
    intro i
    have hi := h.worker i
    rw [if_pos (Nat.lt_of_lt_of_le i.isLt hall)] at hi
    exact hi
  have hpoints : ∀ i, (s.worker i).Entering ∧ (s.worker i).passed = false ∧
      ¬ (s.worker i).AtStart := by
    intro i
    have hi := hgated i
    revert hi
    rcases s.worker i <;> simp [WorkerPoint.Gated, WorkerPoint.Entering, WorkerPoint.passed,
      WorkerPoint.AtStart]
  refine
    { dispatcher := trivial
      ready := rfl
      down := hdown
      released := ?_
      worker := fun i => (hpoints i).1
      start := fun q => ?_
      stop := h.stop
      sized := h.sized
      log := h.log }
  · rw [h.released, eq_comm, Finset.card_eq_zero, Finset.filter_eq_empty_iff]
    intro i _
    simp [(hpoints i).2.1]
  · cases q with
    | none => simp [h.start, At, DispatcherPoint.AtStart]
    | some i => simp [h.start, At, (hpoints i).2.2]

theorem Starting.failReady {index : Nat} (h : Starting rows index s) (hdown : s.shuttingDown = true) :
    Failing { s.goto (.failUnlock index) with startupReady := true } where
  dispatcher := trivial
  down := hdown
  worker i := by
    have hi := h.worker i
    split at hi
    · refine .inl ?_
      revert hi
      change (s.worker i).Gated → (s.worker i).Refused
      rcases s.worker i <;> simp [WorkerPoint.Gated, WorkerPoint.Refused]
    · exact .inr hi
  log := h.log

theorem Starting.dispatcherStep {index : Nat} (h : Starting rows index s)
    {move : DispatcherMove J S n} (hstep : s.dispatcherStep move = some t) : Era rows t := by
  have hdispatcher := h.dispatcher
  rcases dispatcherStep_cases hstep with ⟨k, hpoint, rfl⟩ | ⟨hpoint, _⟩ | rfl
  · rw [hpoint] at hdispatcher
    exact .starting index { h with dispatcher := hdispatcher }
  · rw [hpoint] at hdispatcher
    exact hdispatcher.elim
  rcases hpoint : s.dispatcher <;> rw [hpoint] at hdispatcher <;>
    simp only [CartWorkerPool.dispatcherStep, hpoint] at hstep
  case create k =>
      obtain ⟨rfl, hdown⟩ := hdispatcher
      split at hstep
      · next hindex =>
          cases hstep
          exact .starting (k + 1) (h.create hdown hindex)
      · next hindex =>
          cases hstep
          exact .starting k { h with dispatcher := ⟨Nat.le_of_not_lt hindex, hdown⟩ }
  case failLock k =>
      cases acquire_map hstep
      exact .starting index { h with dispatcher := hdispatcher }
  case failDown k =>
      cases hstep
      exact .starting index { h with dispatcher := ⟨hdispatcher.1, rfl⟩ }
  case failReady k =>
      cases hstep
      obtain ⟨rfl, hdown⟩ := hdispatcher
      exact .failing (h.failReady hdown)
  case openLock =>
      cases acquire_map hstep
      exact .starting index { h with dispatcher := hdispatcher }
  case openReady =>
      cases hstep
      exact .opening (h.openReady hdispatcher.1 hdispatcher.2)
  all_goals exact hdispatcher.elim

/-- What `pthread_join` in a loop leads to. -/
theorem joinStep_cases {index count : Nat} {next done : CartWorkerPool J S n}
    (h : s.joinStep index count next done = some t) :
    (∃ hindex : index < n, index < count ∧ s.worker ⟨index, hindex⟩ = .exited ∧ t = next) ∨
      count ≤ index ∧ t = done := by
  unfold joinStep at h
  split_ifs at h with hcount hindex hexited
  · refine .inl ⟨hindex, hcount, ?_, (Option.some.inj h).symm⟩
    unfold HasExited at hexited
    split at hexited
    · assumption
    · cases hexited
  · exact .inr ⟨Nat.le_of_not_lt hcount, (Option.some.inj h).symm⟩

theorem Failing.dispatcherStep (h : Failing s) {move : DispatcherMove J S n}
    (hstep : s.dispatcherStep move = some t) : Failing t := by
  have hdispatcher := h.dispatcher
  rcases dispatcherStep_cases hstep with ⟨k, hpoint, _⟩ | ⟨hpoint, _⟩ | rfl
  · rw [hpoint] at hdispatcher
    exact hdispatcher.elim
  · rw [hpoint] at hdispatcher
    exact hdispatcher.elim
  rcases hpoint : s.dispatcher <;> rw [hpoint] at hdispatcher <;>
    simp only [CartWorkerPool.dispatcherStep, hpoint] at hstep
  case failUnlock k =>
      cases hstep
      exact { h with dispatcher := trivial }
  case failJoin k started =>
      rcases joinStep_cases hstep with ⟨_, _, _, rfl⟩ | ⟨_, rfl⟩
      · exact { h with dispatcher := trivial }
      · exact { h with dispatcher := trivial }
  case failed => cases hstep
  all_goals exact hdispatcher.elim

/-- All workers are through the gate. -/
theorem Opening.openUnlock (h : Opening rows s) (hreleased : n ≤ s.startupReleased) :
    Era rows (s.goto .openUnlock) := by
  have hpassed : ∀ i, (s.worker i).passed = true := by
    have hatMost := (Finset.univ.filter fun i => (s.worker i).passed).card_le_univ
    have hall : (Finset.univ.filter fun i => (s.worker i).passed) = Finset.univ := by
      rw [← Finset.card_eq_iff_eq_univ]
      rw [h.released] at hreleased
      simp only [Fintype.card_fin] at hatMost ⊢
      omega
    intro i
    have hi := Finset.mem_univ i
    rw [← hall, Finset.mem_filter] at hi
    exact hi.2
  have hdispatcher := h.dispatcher
  refine .outside
    { dispatcher := ⟨h.down, [], by simp, by simp [h.log]⟩
      worker := fun i => ?_
      stop := h.stop
      sized := h.sized } (at_goto h.start ?_)
  · have hi := hpassed i
    revert hi
    change (s.worker i).passed = true → (s.worker i).Outside
    rcases s.worker i <;> simp [WorkerPoint.passed, WorkerPoint.Outside]
  · revert hdispatcher
    rcases s.dispatcher <;> simp [DispatcherPoint.AtStart]

theorem Opening.dispatcherStep (h : Opening rows s) {move : DispatcherMove J S n}
    (hstep : s.dispatcherStep move = some t) : Era rows t := by
  have hdispatcher := h.dispatcher
  rcases dispatcherStep_cases hstep with ⟨k, hpoint, _⟩ | ⟨hpoint, _⟩ | rfl
  · rw [hpoint] at hdispatcher
    exact hdispatcher.elim
  · rw [hpoint] at hdispatcher
    exact hdispatcher.elim
  rcases hpoint : s.dispatcher <;> rw [hpoint] at hdispatcher <;>
    simp only [CartWorkerPool.dispatcherStep, hpoint] at hstep
  case await =>
      split at hstep
      · cases hstep
        exact .opening { h with
          dispatcher := trivial
          start := at_goto h.start (by rw [hpoint]; rfl) }
      · next hreleased =>
          cases hstep
          rw [h.sized.2] at hreleased
          exact h.openUnlock (Nat.le_of_not_lt hreleased)
  case awaitAsleep =>
      cases acquire_map hstep
      exact .opening { h with
        dispatcher := trivial
        start := at_goto h.start (by rw [hpoint]; rfl) }
  all_goals exact hdispatcher.elim

theorem Inside.dispatcherStep {call : PoolDispatch J S n} (h : Inside rows call s)
    (hstop : ∀ q, q ∈ s.stopWaiting ↔ s.AtStop q) {move : DispatcherMove J S n}
    (hstep : s.dispatcherStep move = some t) : Era rows t := by
  have hdispatcher := h.dispatcher
  rcases dispatcherStep_cases hstep with ⟨k, hpoint, _⟩ | ⟨hpoint, _⟩ | rfl
  · rw [hpoint] at hdispatcher
    exact hdispatcher.elim
  · rw [hpoint] at hdispatcher
    exact hdispatcher.elim
  rcases hpoint : s.dispatcher <;> rw [hpoint] at hdispatcher <;>
    simp only [CartWorkerPool.dispatcherStep, hpoint] at hstep
  case waitStart other =>
      rw [h.start, if_neg (Finset.notMem_empty _)] at hstep
      cases hstep
      exact .inside call { h with dispatcher := hdispatcher }
        (at_goto hstop (by rw [hpoint]; rfl))
  case arriveStop other =>
      cases hstep
      have hgoto : Inside rows call (s.goto (.waitStop other)) :=
        { h with dispatcher := hdispatcher }
      rcases arrive_goto hstop (.waitStop other) trivial with ⟨hall, hopens⟩ | ⟨_, hwaiting⟩
      · rw [hopens]
        exact hgoto.stopOpens hall
      · exact .inside call { hgoto with } hwaiting
  case waitStop other =>
      rw [if_pos ((hstop none).mpr (by simp [At, hpoint, DispatcherPoint.AtStop]))] at hstep
      cases hstep
  all_goals exact hdispatcher.elim

theorem Closing.dispatcherStep (h : Closing rows s) {move : DispatcherMove J S n}
    (hstep : s.dispatcherStep move = some t) : Closing rows t := by
  have hdispatcher := h.dispatcher
  rcases dispatcherStep_cases hstep with ⟨k, hpoint, _⟩ | ⟨hpoint, _⟩ | rfl
  · rw [hpoint] at hdispatcher
    exact hdispatcher.elim
  · rw [hpoint] at hdispatcher
    exact hdispatcher.elim
  rcases hpoint : s.dispatcher <;> rw [hpoint] at hdispatcher <;>
    simp only [CartWorkerPool.dispatcherStep, hpoint] at hstep
  case lastWait =>
      rw [h.start, if_neg (Finset.notMem_empty _)] at hstep
      cases hstep
      exact { h with dispatcher := ⟨hdispatcher.1, hdispatcher.2, fun _ hi => absurd hi (Nat.not_lt_zero _)⟩ }
  case join index =>
      obtain ⟨hcount, hlog, hexited⟩ := hdispatcher
      rcases joinStep_cases hstep with ⟨hindex, _, hjoined, rfl⟩ | ⟨hlast, rfl⟩
      · refine { h with dispatcher := ⟨hcount, hlog, fun i hi => ?_⟩ }
        rcases Nat.lt_succ_iff_lt_or_eq.mp hi with hbefore | heq
        · exact hexited i hbefore
        · obtain rfl : i = ⟨index, hindex⟩ := Fin.ext heq
          exact hjoined
      · rw [hcount] at hlast
        exact { h with
          dispatcher := ⟨hlog.concat .closed,
            fun i => hexited i (Nat.lt_of_lt_of_le i.isLt hlast)⟩ }
  case closed => cases hstep
  all_goals exact hdispatcher.elim

theorem Outside.dispatcherStep (h : Outside rows s)
    (hstart : ∀ q, q ∈ s.startWaiting ↔ s.AtStart q) {move : DispatcherMove J S n}
    (hstep : s.dispatcherStep move = some t) : Era rows t := by
  have hdispatcher := h.dispatcher
  rcases dispatcherStep_cases hstep with ⟨k, hpoint, _⟩ | ⟨hpoint, ⟨call, rfl⟩ | rfl⟩ | rfl
  · rw [hpoint] at hdispatcher
    exact hdispatcher.elim
  · rw [hpoint] at hdispatcher
    exact .outside { h with dispatcher := ⟨hdispatcher.1, hdispatcher.2.concat _⟩ }
      (at_goto hstart (by rw [hpoint]; rfl))
  · rw [hpoint] at hdispatcher
    exact .outside { h with dispatcher := ⟨hdispatcher.1, hdispatcher.2.concat _⟩ }
      (at_goto hstart (by rw [hpoint]; rfl))
  rcases hpoint : s.dispatcher <;> rw [hpoint] at hdispatcher <;>
    simp only [CartWorkerPool.dispatcherStep, hpoint] at hstep
  case openUnlock =>
      cases hstep
      exact .outside { h with dispatcher := hdispatcher } (at_goto hstart (by rw [hpoint]; rfl))
  case idle => cases hstep
  case writeJob call =>
      cases hstep
      exact .outside { h with dispatcher := ⟨hdispatcher.1, hdispatcher.2, rfl⟩ }
        (at_goto hstart (by rw [hpoint]; rfl))
  case writeSlots call =>
      cases hstep
      obtain ⟨hdown, hlog, hjob⟩ := hdispatcher
      exact .outside { h with dispatcher := ⟨hdown, hlog, hjob, rfl⟩ }
        (at_goto hstart (by rw [hpoint]; rfl))
  case writeGeneration call =>
      cases hstep
      obtain ⟨hdown, hlog, hjob, hslots⟩ := hdispatcher
      exact .outside { h with dispatcher := ⟨hdown, hlog, hjob, hslots, rfl⟩ }
        (at_goto hstart (by rw [hpoint]; rfl))
  case arriveStart call =>
      cases hstep
      have hgoto : Outside rows (s.goto (.waitStart call)) :=
        { h with dispatcher := hdispatcher }
      rcases arrive_goto hstart (.waitStart call) trivial with ⟨hall, hopens⟩ | ⟨_, hwaiting⟩
      · rw [hopens]
        exact hgoto.startOpens hall
      · exact .outside { hgoto with } hwaiting
  case waitStart call =>
      rw [if_pos ((hstart none).mpr (by simp [At, hpoint, DispatcherPoint.AtStart]))] at hstep
      cases hstep
  case waitStop call =>
      -- the round is full and the dispatch returns
      rw [h.stop, if_neg (Finset.notMem_empty _)] at hstep
      cases hstep
      obtain ⟨hdown, events, hlog, hfull⟩ := hdispatcher
      exact .outside { h with dispatcher := ⟨hdown, hlog.returned hfull⟩ }
        (at_goto hstart (by rw [hpoint]; rfl))
  case setDown =>
      cases hstep
      exact .outside { h with dispatcher := ⟨rfl, hdispatcher.2⟩ }
        (at_goto hstart (by rw [hpoint]; rfl))
  case lastArrive =>
      cases hstep
      have hgoto : Outside rows (s.goto .lastWait) := { h with dispatcher := hdispatcher }
      rcases arrive_goto hstart .lastWait trivial with ⟨hall, hopens⟩ | ⟨_, hwaiting⟩
      · rw [hopens]
        exact hgoto.startOpens hall
      · exact .outside { hgoto with } hwaiting
  case lastWait =>
      rw [if_pos ((hstart none).mpr (by simp [At, hpoint, DispatcherPoint.AtStart]))] at hstep
      cases hstep
  all_goals exact hdispatcher.elim

theorem Era.step (h : Era rows s) {move : PoolMove J S n} (hstep : Steps s move t) :
    Era rows t := by
  cases move with
  | worker i => exact h.workerStep hstep
  | dispatcher move =>
      cases h with
      | starting index h => exact h.dispatcherStep hstep
      | failing h => exact .failing (h.dispatcherStep hstep)
      | opening h => exact h.dispatcherStep hstep
      | outside h start => exact h.dispatcherStep start hstep
      | inside call h stop => exact h.dispatcherStep stop hstep
      | closing h => exact .closing (h.dispatcherStep hstep)

theorem era_created (n : Nat) (rows : Int32) : Era rows (created (J := J) (S := S) n rows) :=
  .starting 0
    { dispatcher := ⟨rfl, rfl⟩
      ready := rfl
      released := rfl
      worker := fun _ => rfl
      start := rfl
      stop := rfl
      sized := ⟨rfl, rfl⟩
      log := rfl }

theorem done_prefix (call : PoolDispatch J S n) (i : Fin n) (point : WorkerPoint J S) :
    point.done rows call i <+: call.turn rows i := by
  rcases point <;> simp [WorkerPoint.done, List.take_prefix]

attribute [local simp] Currently DispatcherPoint.Writes

/-- Before the first call the log is empty. -/
theorem lockstep_of_log_eq_nil (hlog : s.log = [])
    (hpoint : Currently rows [] s.dispatcher ∧ ¬ s.dispatcher.Writes ∧ s.dispatcher ≠ .closed) :
    s.Lockstep rows where
  rounds := ⟨[], ⟨[], by simp, hlog⟩, hpoint.1⟩
  apart hwrites := absurd hwrites hpoint.2.1
  closed hclosed := absurd hclosed hpoint.2.2

theorem Starting.lockstep {index : Nat} (h : Starting rows index s) : s.Lockstep rows := by
  apply lockstep_of_log_eq_nil h.log
  have hdispatcher := h.dispatcher
  revert hdispatcher
  rcases s.dispatcher <;> simp

theorem Failing.lockstep (h : Failing s) : s.Lockstep rows := by
  apply lockstep_of_log_eq_nil h.log
  have hdispatcher := h.dispatcher
  revert hdispatcher
  rcases s.dispatcher <;> simp

theorem Opening.lockstep (h : Opening rows s) : s.Lockstep rows := by
  apply lockstep_of_log_eq_nil h.log
  have hdispatcher := h.dispatcher
  revert hdispatcher
  rcases s.dispatcher <;> simp

/-- A round in which no worker has done anything yet. -/
theorem underWay_nil (call : PoolDispatch J S n) : PoolRound.UnderWay rows ⟨call, []⟩ :=
  ⟨by simp, fun _ => List.nil_prefix⟩

theorem Outside.lockstep (h : Outside rows s) : s.Lockstep rows := by
  have hdispatcher := h.dispatcher
  refine ⟨?_, ?_, ?_⟩
  · rcases hpoint : s.dispatcher <;> rw [hpoint] at hdispatcher
    case openUnlock | idle => exact ⟨[], hdispatcher.2, rfl⟩
    case writeJob call => exact ⟨_, hdispatcher.2, [], rfl, underWay_nil call⟩
    case writeSlots call | writeGeneration call | arriveStart call | waitStart call =>
        exact ⟨_, hdispatcher.2.1, [], rfl, underWay_nil call⟩
    case waitStop call =>
        obtain ⟨_, events, hlog, hfull⟩ := hdispatcher
        exact ⟨_, hlog, events, rfl, hfull.underWay⟩
    case setDown | lastArrive | lastWait => exact ⟨_, hdispatcher.2, rfl⟩
    all_goals exact hdispatcher.elim
  · -- a worker that is outside a round reads nothing
    intro _ i
    have hi := h.worker i
    revert hi
    rcases s.worker i <;> simp [WorkerPoint.Outside, WorkerPoint.Reads]
  · intro hclosed
    rw [hclosed] at hdispatcher
    exact hdispatcher.elim

theorem Inside.lockstep {call : PoolDispatch J S n} (h : Inside rows call s) :
    s.Lockstep rows := by
  have hdispatcher := h.dispatcher
  obtain ⟨events, hlog, hof, hturns⟩ := h.log
  have hunder : PoolRound.UnderWay rows ⟨call, events⟩ :=
    ⟨hof, fun i => by rw [hturns i]; exact done_prefix call i _⟩
  refine ⟨⟨_, hlog, ?_⟩, ?_, ?_⟩
  · rcases hpoint : s.dispatcher <;> rw [hpoint] at hdispatcher
    case waitStart other | arriveStop other | waitStop other =>
        cases hdispatcher
        exact ⟨events, rfl, hunder⟩
    all_goals exact hdispatcher.elim
  · -- the dispatching thread writes nothing inside a round
    intro hwrites
    revert hdispatcher hwrites
    rcases s.dispatcher <;> simp
  · intro hclosed
    rw [hclosed] at hdispatcher
    exact hdispatcher.elim

theorem Closing.lockstep (h : Closing rows s) : s.Lockstep rows := by
  have hdispatcher := h.dispatcher
  refine ⟨?_, ?_, ?_⟩
  · rcases hpoint : s.dispatcher <;> rw [hpoint] at hdispatcher
    case lastWait => exact ⟨_, hdispatcher.2, rfl⟩
    case join index => exact ⟨_, hdispatcher.2.1, rfl⟩
    case closed => exact ⟨_, hdispatcher.1, rfl⟩
    all_goals exact hdispatcher.elim
  · intro _ i
    have hi := h.worker i
    revert hi
    rcases s.worker i <;> simp [WorkerPoint.Leaving, WorkerPoint.Reads]
  · intro hclosed
    rw [hclosed] at hdispatcher
    exact hdispatcher.2

/-- Whatever the number of workers, the calls and the order of the steps: each dispatch is a round in
which every worker does the job once on its own slot with its generation, nothing the workers read is
written meanwhile, and once a shutdown has returned every worker has exited and no job has begun since
the last dispatch returned. -/
theorem lockstep_of_run {moves : List (PoolMove J S n)}
    (run : Run Steps (created n rows) moves s) : s.Lockstep rows := by
  have hera : Era rows s :=
    run.invariant (P := Era rows) (era_created n rows) fun _ _ _ hera hstep => hera.step hstep
  cases hera with
  | starting index h => exact h.lockstep
  | failing h => exact h.lockstep
  | opening h => exact h.lockstep
  | outside h start => exact h.lockstep
  | inside call h stop => exact h.lockstep
  | closing h => exact h.lockstep

private def go (k : Nat) : List (PoolMove Nat Nat 2) := List.replicate k (.dispatcher .go)

private def work (i : Fin 2) (k : Nat) : List (PoolMove Nat Nat 2) := List.replicate k (.worker i)

/-- Two workers start, do one dispatch and are shut down. -/
private def oneDispatch : List (PoolMove Nat Nat 2) :=
  go 6 ++ work 0 6 ++ work 1 6 ++ go 3 ++ .dispatcher (.dispatch ⟨7, Fin.val, 1⟩) :: go 4 ++
    work 1 9 ++ work 0 9 ++ go 3 ++ work 0 2 ++ work 1 2 ++ .dispatcher .shutdown :: go 3 ++
    work 1 2 ++ work 0 2 ++ go 3

private theorem oneDispatch_runs : (execute next (created 2 180) oneDispatch).isSome = true := by
  decide

theorem lockstep_of_run_oneDispatch :
    ∃ t, Run Steps (created 2 180) oneDispatch t ∧ t.Lockstep 180 ∧ t.log.length = 8 := by
  have hrun : Run Steps (created 2 180) oneDispatch
      ((execute next (created 2 180) oneDispatch).get oneDispatch_runs) :=
    Run.of_execute (Option.some_get oneDispatch_runs).symm
  exact ⟨_, hrun, lockstep_of_run hrun, by decide⟩

end CartWorkerPool

end VitaLinuxPort
