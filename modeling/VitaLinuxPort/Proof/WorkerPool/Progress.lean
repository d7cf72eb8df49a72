import VitaLinuxPort.Proof.WorkerPool.Lockstep

/-!
# No thread of the pool waits for ever

Whoever holds the startup mutex can go on, and a barrier never holds back all of its parties. So while
a call is under way some thread can take a step, and it is no thread that sleeps on the condition while
what it waits for has not happened: a sleeper whose flag or count has been set was woken by the broadcast
that goes with it. A pool that fails to start lets those it has created go and waits for them.
-/

namespace VitaLinuxPort

/-- After the mutex is taken and before it is left. -/
def WorkerPoint.Holds {J S : Type} : WorkerPoint J S → Prop
  | .gate | .checkDown | .refuse | .release | .unlock => True
  | _ => False

def DispatcherPoint.Holds {J S : Type} {n : Nat} : DispatcherPoint J S n → Prop
  | .failDown _ | .failReady _ | .failUnlock _ | .openReady | .await | .openUnlock => True
  | _ => False

/-- No call is under way. -/
def DispatcherPoint.Rests {J S : Type} {n : Nat} : DispatcherPoint J S n → Prop
  | .idle | .failed | .closed => True
  | _ => False

/-- No new call begins. -/
def PoolMove.Quiet {J S : Type} {n : Nat} : PoolMove J S n → Prop
  | .dispatcher (.dispatch _) | .dispatcher .shutdown => False
  | _ => True

namespace CartWorkerPool

variable {J S : Type} {n : Nat} {rows : Int32} {s t : CartWorkerPool J S n}

/-- A step that is no new call and does not wake a thread whose condition has not been broadcast. -/
structure Advances (s : CartWorkerPool J S n) (move : PoolMove J S n) (t : CartWorkerPool J S n) :
    Prop where
  steps : Steps s move t
  quiet : move.Quiet
  worker : ∀ i, move = .worker i → s.worker i = .asleep → s.startupReady = true
  dispatcher : ∀ choice, move = .dispatcher choice → s.dispatcher = .awaitAsleep →
    s.workerCount ≤ s.startupReleased

/-- The started workers are let go and joined in their order. -/
structure Abandoned (index started : Nat) (s : CartWorkerPool J S n) : Prop where
  bound : index < n
  ready : s.startupReady = true
  born : ∀ i : Fin n, i < index → s.worker i ≠ .unborn
  unborn : ∀ i : Fin n, index ≤ i → s.worker i = .unborn
  joined : ∀ i : Fin n, i < started → s.worker i = .exited

/-- What the eras do not say: the mutex is held by a thread between taking and leaving it, the barriers
hold back fewer than all, and a failed start knows whom it has started. -/
structure Sound (s : CartWorkerPool J S n) : Prop where
  mutex : ∀ q, s.startupMutex = some q → s.At WorkerPoint.Holds DispatcherPoint.Holds q
  start : s.startWaiting.card ≠ n + 1
  stop : s.stopWaiting.card ≠ n + 1
  failing : match s.dispatcher with
    | .failLock index | .failDown index | .failReady index => index < n
    | .failUnlock index => Abandoned index 0 s
    | .failJoin index started => Abandoned index started s
    | .failed => ∃ index, Abandoned index index s
    | _ => True

/-- The mutex is left alone, left, or taken. -/
def MutexKept (s t : CartWorkerPool J S n) (q : PoolThread n) (before after : Prop) : Prop :=
  t.startupMutex = s.startupMutex ∧ (before → after) ∨ t.startupMutex = none ∨
    t.startupMutex = some q ∧ after

/-- What a step of a worker can do to what the dispatching thread does not write alone. -/
structure WorkerTurn (s : CartWorkerPool J S n) (i : Fin n) (t : CartWorkerPool J S n) : Prop where
  point : ∃ point, t.worker = Function.update s.worker i point ∧
    (s.worker i ≠ .unborn ∧ s.worker i ≠ .exited ∧ point ≠ .unborn) ∧
    MutexKept s t (some i) (s.worker i).Holds point.Holds
  dispatcher : t.dispatcher = s.dispatcher
  ready : t.startupReady = s.startupReady
  count : t.workerCount = s.workerCount
  released : s.startupReleased ≤ t.startupReleased
  start : t.startWaiting = s.startWaiting ∨
    t.startWaiting = Barrier.arrive (n + 1) s.startWaiting (some i)
  stop : t.stopWaiting = s.stopWaiting ∨
    s.worker i = .arriveStop ∧ t.stopWaiting = Barrier.arrive (n + 1) s.stopWaiting (some i)

theorem workerTurn {i : Fin n} (h : s.workerStep i = some t) : WorkerTurn s i t := by
  rcases hpoint : s.worker i <;> simp only [CartWorkerPool.workerStep, hpoint] at h
  case unborn | exited => cases h
  case lock | asleep =>
      cases acquire_map h
      exact ⟨⟨_, rfl, by simp [hpoint], .inr (.inr ⟨rfl, trivial⟩)⟩, rfl, rfl, rfl, Nat.le_refl _,
        .inl rfl, .inl rfl⟩
  case gate | checkDown | readDown =>
      split at h <;> cases h <;>
        exact ⟨⟨_, rfl, by simp [hpoint], by simp [MutexKept, WorkerPoint.Holds, hpoint]⟩, rfl, rfl, rfl,
          Nat.le_refl _, .inl rfl, .inl rfl⟩
  case waitStart | waitStop =>
      split at h <;> cases h
      exact ⟨⟨_, rfl, by simp [hpoint], .inl ⟨rfl, by simp [WorkerPoint.Holds, hpoint]⟩⟩, rfl, rfl,
        rfl, Nat.le_refl _, .inl rfl, .inl rfl⟩
  case arriveStart =>
      cases h
      exact ⟨⟨_, rfl, by simp [hpoint], .inl ⟨rfl, by simp [WorkerPoint.Holds, hpoint]⟩⟩, rfl, rfl,
        rfl, Nat.le_refl _, .inr rfl, .inl rfl⟩
  case arriveStop =>
      cases h
      exact ⟨⟨_, rfl, by simp [hpoint], .inl ⟨rfl, by simp [WorkerPoint.Holds, hpoint]⟩⟩, rfl, rfl,
        rfl, Nat.le_refl _, .inl rfl, .inr ⟨hpoint, rfl⟩⟩
  all_goals
    cases h
    exact ⟨⟨_, rfl, by simp [hpoint], by simp [MutexKept, WorkerPoint.Holds, hpoint]⟩, rfl, rfl, rfl,
      by simp, .inl rfl, .inl rfl⟩

theorem Abandoned.workerTurn {index started : Nat} (h : Abandoned index started s) {i : Fin n}
    (hturn : WorkerTurn s i t) : Abandoned index started t := by
  obtain ⟨point, hworker, ⟨hborn, hlive, hpoint⟩, -⟩ := hturn.point
  have hother : ∀ j, j ≠ i → t.worker j = s.worker j := fun j hj => by
    rw [hworker, Function.update_of_ne hj]
  refine ⟨h.bound, hturn.ready.trans h.ready, fun j hj => ?_, fun j hj => ?_, fun j hj => ?_⟩
  · by_cases hji : j = i
    · rw [hji, hworker, Function.update_self]
      exact hpoint
    · rw [hother j hji]
      exact h.born j hj
  · have hji : j ≠ i := fun heq => hborn (heq ▸ h.unborn j hj)
    rw [hother j hji]
    exact h.unborn j hj
  · have hji : j ≠ i := fun heq => hlive (heq ▸ h.joined j hj)
    rw [hother j hji]
    exact h.joined j hj

private theorem card_ne {waiting waiting' : Finset (PoolThread n)} {q : PoolThread n}
    (h : waiting.card ≠ n + 1)
    (hkept : waiting' = waiting ∨ waiting' = Barrier.arrive (n + 1) waiting q) :
    waiting'.card ≠ n + 1 := by
  rcases hkept with rfl | rfl
  · exact h
  · exact Barrier.card_arrive_ne (Nat.succ_pos n) waiting q

theorem Sound.workerStep (h : Sound s) {i : Fin n} (hstep : s.workerStep i = some t) : Sound t := by
  have hturn := workerTurn hstep
  refine ⟨?_, card_ne h.start hturn.start,
    card_ne h.stop (hturn.stop.imp_right And.right), ?_⟩
  · obtain ⟨point, hworker, -, hmutex⟩ := hturn.point
    intro q hq
    rcases hmutex with ⟨hkept, hholds⟩ | hleft | ⟨htaken, hholds⟩
    · have hbefore := h.mutex q (hkept.symm.trans hq)
      cases q with
      | none =>
          show t.dispatcher.Holds
          rw [hturn.dispatcher]
          exact hbefore
      | some j =>
          show (t.worker j).Holds
          by_cases hj : j = i
          · rw [hj] at hbefore
            rw [hj, hworker, Function.update_self]
            exact hholds hbefore
          · rw [hworker, Function.update_of_ne hj]
            exact hbefore
    · rw [hleft] at hq
      cases hq
    · obtain rfl := Option.some.inj (htaken.symm.trans hq)
      show (t.worker i).Holds
      rw [hworker, Function.update_self]
      exact hholds
  · have hfailing := h.failing
    rw [hturn.dispatcher]
    rcases hpoint : s.dispatcher <;> rw [hpoint] at hfailing <;> simp only at hfailing ⊢
    case failLock | failDown | failReady => exact hfailing
    case failUnlock | failJoin => exact hfailing.workerTurn hturn
    case failed =>
        obtain ⟨index, hindex⟩ := hfailing
        exact ⟨index, hindex.workerTurn hturn⟩

/-- What a step of the dispatching thread can do to the mutex, the workers and the barriers. -/
structure DispatcherTurn (s t : CartWorkerPool J S n) : Prop where
  mutex : MutexKept s t none s.dispatcher.Holds t.dispatcher.Holds
  worker : ∀ i, t.worker i = s.worker i ∨ s.dispatcher = .create i ∧ t.worker i = .lock
  start : t.startWaiting = s.startWaiting ∨
    t.startWaiting = Barrier.arrive (n + 1) s.startWaiting none
  stop : t.stopWaiting = s.stopWaiting ∨
    t.dispatcher.AtStop ∧ t.stopWaiting = Barrier.arrive (n + 1) s.stopWaiting none

theorem dispatcherTurn {move : DispatcherMove J S n} (h : s.dispatcherStep move = some t) :
    DispatcherTurn s t := by
  have hsame : ∀ i, s.worker i = s.worker i ∨ s.dispatcher = .create i ∧ s.worker i = .lock :=
    fun _ => .inl rfl
  rcases dispatcherStep_cases h with ⟨k, hpoint, rfl⟩ | ⟨hpoint, ⟨call, rfl⟩ | rfl⟩ | rfl
  · exact ⟨.inl ⟨rfl, by simp [DispatcherPoint.Holds, hpoint]⟩, hsame, .inl rfl, .inl rfl⟩
  · exact ⟨.inl ⟨rfl, by simp [DispatcherPoint.Holds, hpoint]⟩, hsame, .inl rfl, .inl rfl⟩
  · exact ⟨.inl ⟨rfl, by simp [DispatcherPoint.Holds, hpoint]⟩, hsame, .inl rfl, .inl rfl⟩
  rcases hpoint : s.dispatcher <;> simp only [CartWorkerPool.dispatcherStep, hpoint] at h
  case create index =>
      split at h <;> cases h
      · refine ⟨.inl ⟨rfl, by simp [DispatcherPoint.Holds, hpoint]⟩, fun i => ?_, .inl rfl, .inl rfl⟩
        by_cases hi : (i : Nat) = index
        · right
          subst hi
          exact ⟨hpoint, Function.update_self _ _ _⟩
        · left
          exact Function.update_of_ne (fun heq => hi (congrArg Fin.val heq)) _ _
      · exact ⟨.inl ⟨rfl, by simp [DispatcherPoint.Holds, hpoint]⟩, hsame, .inl rfl, .inl rfl⟩
  case failLock | openLock | awaitAsleep =>
      cases acquire_map h
      exact ⟨.inr (.inr ⟨rfl, trivial⟩), hsame, .inl rfl, .inl rfl⟩
  case failJoin | join =>
      rcases joinStep_cases h with ⟨_, _, _, rfl⟩ | ⟨_, rfl⟩
      · exact ⟨.inl ⟨rfl, by simp [DispatcherPoint.Holds, hpoint]⟩, hsame, .inl rfl, .inl rfl⟩
      · exact ⟨.inl ⟨rfl, by simp [DispatcherPoint.Holds, hpoint]⟩, hsame, .inl rfl, .inl rfl⟩
  case await =>
      split at h <;> cases h <;>
        exact ⟨by simp [MutexKept, DispatcherPoint.Holds], hsame, .inl rfl, .inl rfl⟩
  case waitStart | waitStop | lastWait =>
      split at h <;> cases h
      exact ⟨.inl ⟨rfl, by simp [DispatcherPoint.Holds, hpoint]⟩, hsame, .inl rfl, .inl rfl⟩
  case arriveStart | lastArrive =>
      cases h
      exact ⟨.inl ⟨rfl, by simp [DispatcherPoint.Holds, hpoint]⟩, hsame, .inr rfl, .inl rfl⟩
  case arriveStop =>
      cases h
      exact ⟨.inl ⟨rfl, by simp [DispatcherPoint.Holds, hpoint]⟩, hsame, .inl rfl,
        .inr ⟨trivial, rfl⟩⟩
  case failed | idle | closed => cases h
  all_goals
    cases h
    exact ⟨by simp [MutexKept, DispatcherPoint.Holds, hpoint], hsame, .inl rfl, .inl rfl⟩

theorem lt_of_createFails {index : Nat} {move : DispatcherMove J S n}
    (h : s.dispatcherStep move = some t) (hpoint : t.dispatcher = .failLock index) : index < n := by
  cases move with
  | createFails =>
      simp only [CartWorkerPool.dispatcherStep] at h
      split at h
      · split at h <;> cases h
        cases hpoint
        assumption
      · cases h
  | dispatch call =>
      simp only [CartWorkerPool.dispatcherStep] at h
      split at h <;> cases h
      cases hpoint
  | shutdown =>
      simp only [CartWorkerPool.dispatcherStep] at h
      split at h <;> cases h
      cases hpoint
  | go =>
      rcases hbefore : s.dispatcher <;> simp only [CartWorkerPool.dispatcherStep, hbefore] at h
      case failJoin | join =>
          rcases joinStep_cases h with ⟨_, _, _, rfl⟩ | ⟨_, rfl⟩ <;> cases hpoint
      case failLock | openLock | awaitAsleep =>
          cases acquire_map h
          cases hpoint
      case create | await | waitStart | waitStop | lastWait =>
          split at h <;> cases h <;> cases hpoint
      all_goals
        cases h
        try cases hpoint

/-- The gate opens on the workers there are, who then find the flag. -/
theorem Starting.abandoned {index : Nat} (h : Starting rows index s) (hbound : index < n) :
    Abandoned index 0 { s.goto (.failUnlock index) with startupReady := true } where
  bound := hbound
  ready := rfl
  born i hi := by
    have hgated := h.worker i
    rw [if_pos hi] at hgated
    intro hunborn
    rw [show s.worker i = .unborn from hunborn] at hgated
    exact hgated
  unborn i hi := by
    have hunborn := h.worker i
    rw [if_neg (Nat.not_lt.mpr hi)] at hunborn
    exact hunborn
  joined i hi := absurd hi (Nat.not_lt_zero _)

theorem Abandoned.same {index started : Nat} (h : Abandoned index started s)
    (hready : t.startupReady = s.startupReady) (hworker : t.worker = s.worker) :
    Abandoned index started t where
  bound := h.bound
  ready := hready.trans h.ready
  born i hi := by rw [hworker]; exact h.born i hi
  unborn i hi := by rw [hworker]; exact h.unborn i hi
  joined i hi := by rw [hworker]; exact h.joined i hi

theorem Era.unborn_of_create (h : Era rows s) {i : Fin n} (hcreate : s.dispatcher = .create i) :
    s.worker i = .unborn := by
  cases h with
  | starting index h =>
      have hdispatcher := h.dispatcher
      rw [hcreate] at hdispatcher
      have hi := h.worker i
      rwa [if_neg (by omega)] at hi
  | failing h => exact (hcreate ▸ h.dispatcher).elim
  | opening h => exact (hcreate ▸ h.dispatcher).elim
  | outside h => exact (hcreate ▸ h.dispatcher).elim
  | inside call h => exact (hcreate ▸ h.dispatcher).elim
  | closing h => exact (hcreate ▸ h.dispatcher).elim

theorem Sound.dispatcherStep (h : Sound s) (hera : Era rows s) {move : DispatcherMove J S n}
    (hstep : s.dispatcherStep move = some t) : Sound t := by
  have hturn := dispatcherTurn hstep
  refine ⟨?_, card_ne h.start hturn.start,
    card_ne h.stop (hturn.stop.imp_right And.right), ?_⟩
  · intro q hq
    rcases hturn.mutex with ⟨hkept, hholds⟩ | hleft | ⟨htaken, hholds⟩
    · have hbefore := h.mutex q (hkept.symm.trans hq)
      cases q with
      | none => exact hholds hbefore
      | some i =>
          show (t.worker i).Holds
          rcases hturn.worker i with hsame | ⟨hcreate, -⟩
          · rw [hsame]
            exact hbefore
          · -- a worker that is being created holds nothing
            have hholds' : (s.worker i).Holds := hbefore
            rw [hera.unborn_of_create hcreate] at hholds'
            exact hholds'.elim
    · rw [hleft] at hq
      cases hq
    · obtain rfl := Option.some.inj (htaken.symm.trans hq)
      exact hholds
  · have hfailing := h.failing
    rcases dispatcherStep_cases hstep with ⟨k, hpoint, rfl⟩ | ⟨-, ⟨call, rfl⟩ | rfl⟩ | rfl
    · exact lt_of_createFails hstep rfl
    · trivial
    · trivial
    rcases hpoint : s.dispatcher <;> rw [hpoint] at hfailing <;>
      simp only [CartWorkerPool.dispatcherStep, hpoint] at hstep
    case failLock k =>
        cases acquire_map hstep
        exact hfailing
    case failDown k =>
        cases hstep
        exact hfailing
    case failReady k =>
        cases hstep
        cases hera with
        | starting index hera =>
            have hdispatcher := hera.dispatcher
            rw [hpoint] at hdispatcher
            obtain ⟨rfl, -⟩ := hdispatcher
            exact hera.abandoned hfailing
        | failing hera => exact (hpoint ▸ hera.dispatcher).elim
        | opening hera => exact (hpoint ▸ hera.dispatcher).elim
        | outside hera => exact (hpoint ▸ hera.dispatcher).elim
        | inside call hera => exact (hpoint ▸ hera.dispatcher).elim
        | closing hera => exact (hpoint ▸ hera.dispatcher).elim
    case failUnlock k =>
        cases hstep
        exact hfailing.same rfl rfl
    case failJoin k started =>
        rcases joinStep_cases hstep with ⟨hindex, _, hexited, rfl⟩ | ⟨hlast, rfl⟩
        · refine { hfailing.same rfl rfl with joined := fun i hi => ?_ }
          rcases Nat.lt_succ_iff_lt_or_eq.mp hi with hbefore | heq
          · exact hfailing.joined i hbefore
          · obtain rfl : i = ⟨started, hindex⟩ := Fin.ext heq
            exact hexited
        · exact ⟨k, { hfailing.same rfl rfl with
            joined := fun i hi => hfailing.joined i (Nat.lt_of_lt_of_le hi hlast) }⟩
    case create | await | waitStart | waitStop | lastWait =>
        split at hstep <;> cases hstep <;> trivial
    case openLock | awaitAsleep =>
        cases acquire_map hstep
        trivial
    case join =>
        rcases joinStep_cases hstep with ⟨_, _, _, rfl⟩ | ⟨_, rfl⟩ <;> trivial
    case failed | idle | closed => cases hstep
    all_goals
      cases hstep
      trivial

theorem Sound.step (h : Sound s) (hera : Era rows s) {move : PoolMove J S n}
    (hstep : Steps s move t) : Sound t := by
  cases move with
  | worker i => exact h.workerStep hstep
  | dispatcher choice => exact h.dispatcherStep hera hstep

theorem sound_created (n : Nat) (rows : Int32) : Sound (created (J := J) (S := S) n rows) where
  mutex q hq := by cases hq
  start := by
    rw [show (created n rows : CartWorkerPool J S n).startWaiting = ∅ from rfl, Finset.card_empty]
    exact (Nat.succ_ne_zero n).symm
  stop := by
    rw [show (created n rows : CartWorkerPool J S n).stopWaiting = ∅ from rfl, Finset.card_empty]
    exact (Nat.succ_ne_zero n).symm
  failing := trivial

/-- Both invariants hold in every run. -/
theorem era_and_sound {moves : List (PoolMove J S n)} (run : Run Steps (created n rows) moves s) :
    Era rows s ∧ Sound s :=
  run.invariant (P := fun s => Era rows s ∧ Sound s) ⟨era_created n rows, sound_created n rows⟩
    fun _ _ _ h hstep => ⟨h.1.step hstep, h.2.step h.1 hstep⟩

/-! ### Who goes on -/

/-- Someone can go on without a new call and without a wake-up for nothing. -/
def GoesOn (s : CartWorkerPool J S n) : Prop := ∃ move t, Advances s move t

theorem goesOn_of_worker {i : Fin n} (hawake : s.worker i = .asleep → s.startupReady = true)
    (h : (s.workerStep i).isSome = true) : GoesOn s := by
  obtain ⟨t, ht⟩ := Option.isSome_iff_exists.mp h
  refine ⟨.worker i, t, ⟨ht, trivial, fun j hj hasleep => ?_, fun _ hmove _ => (nomatch hmove)⟩⟩
  obtain rfl := PoolMove.worker.inj hj
  exact hawake hasleep

theorem goesOn_of_dispatcher
    (hawake : s.dispatcher = .awaitAsleep → s.workerCount ≤ s.startupReleased)
    (h : (s.dispatcherStep .go).isSome = true) : GoesOn s := by
  obtain ⟨t, ht⟩ := Option.isSome_iff_exists.mp h
  exact ⟨.dispatcher .go, t, ⟨ht, trivial, fun _ hmove _ => (nomatch hmove), fun _ _ => hawake⟩⟩

theorem Sound.goesOn_of_held (h : Sound s) {q : PoolThread n} (hq : s.startupMutex = some q) :
    GoesOn s := by
  have hholds := h.mutex q hq
  cases q with
  | none =>
      have hdispatcher : s.dispatcher.Holds := hholds
      rcases hpoint : s.dispatcher <;> rw [hpoint] at hdispatcher
      case failDown | failReady | failUnlock | openReady | await | openUnlock =>
          apply goesOn_of_dispatcher
          · simp [hpoint]
          · simp only [CartWorkerPool.dispatcherStep, hpoint]
            try split
            all_goals rfl
      all_goals exact hdispatcher.elim
  | some i =>
      have hworker : (s.worker i).Holds := hholds
      rcases hpoint : s.worker i <;> rw [hpoint] at hworker
      case gate | checkDown | refuse | release | unlock =>
          apply goesOn_of_worker (i := i)
          · simp [hpoint]
          · simp only [CartWorkerPool.workerStep, hpoint]
            try split
            all_goals rfl
      all_goals exact hworker.elim

/-- Whoever wants the mutex gets it, or its holder goes on. -/
theorem Sound.goesOn_or_free (h : Sound s) : GoesOn s ∨ s.startupMutex = none := by
  rcases hmutex : s.startupMutex with _ | q
  · exact .inr rfl
  · exact .inl (h.goesOn_of_held hmutex)

/-- A worker that is neither asleep nor held back by a barrier goes on, or the holder of the mutex. -/
theorem Sound.goesOn_of_live (h : Sound s) {i : Fin n} (hborn : s.worker i ≠ .unborn)
    (hlive : s.worker i ≠ .exited) (hawake : s.worker i = .asleep → s.startupReady = true)
    (hstart : s.worker i = .waitStart → some i ∉ s.startWaiting)
    (hstop : s.worker i = .waitStop → some i ∉ s.stopWaiting) : GoesOn s := by
  rcases h.goesOn_or_free with hheld | hfree
  · exact hheld
  apply goesOn_of_worker hawake
  rcases hpoint : s.worker i <;> simp only [CartWorkerPool.workerStep, hpoint, acquire, hfree]
  case unborn => exact absurd hpoint hborn
  case exited => exact absurd hpoint hlive
  case waitStart => rw [if_neg (hstart hpoint), Option.isSome_some]
  case waitStop => rw [if_neg (hstop hpoint), Option.isSome_some]
  case gate | checkDown | readDown => split <;> rfl
  all_goals rfl

/-- Somebody has not reached the barrier that holds back those who have. -/
theorem exists_missing {waiting : Finset (PoolThread n)} {ofWorker : WorkerPoint J S → Prop}
    {ofDispatcher : DispatcherPoint J S n → Prop} (hcard : waiting.card ≠ n + 1)
    (hwaiting : ∀ q, q ∈ waiting ↔ s.At ofWorker ofDispatcher q) (hnone : none ∈ waiting) :
    ∃ i, ¬ ofWorker (s.worker i) := by
  by_contra hall
  apply hcard
  have huniv : waiting = Finset.univ := by
    ext q
    cases q with
    | none => simp [hnone]
    | some i =>
        rw [hwaiting]
        exact iff_of_true (not_not.mp (not_exists.mp hall i)) (Finset.mem_univ _)
  rw [huniv, Finset.card_univ, Fintype.card_option, Fintype.card_fin]

theorem joinStep_isSome {index count : Nat} {next done : CartWorkerPool J S n}
    (h : index < count → ∃ hindex : index < n, s.worker ⟨index, hindex⟩ = .exited) :
    (s.joinStep index count next done).isSome = true := by
  unfold joinStep
  split
  · next hcount =>
      obtain ⟨hindex, hexited⟩ := h hcount
      rw [dif_pos hindex, if_pos (by rw [HasExited, hexited]), Option.isSome_some]
  · rfl

/-- The dispatching thread goes on where it waits for nobody, or the holder of the mutex. -/
theorem Sound.goesOn_of_dispatching (h : Sound s) (hrests : ¬ s.dispatcher.Rests)
    (hawake : s.dispatcher = .awaitAsleep → s.workerCount ≤ s.startupReleased)
    (hstart : s.dispatcher.AtStart → none ∉ s.startWaiting)
    (hstop : s.dispatcher.AtStop → none ∉ s.stopWaiting)
    (hjoin : ∀ index count, s.dispatcher = .failJoin count index ∨
      s.dispatcher = .join index ∧ s.workerCount = count → index < count →
        ∃ hindex : index < n, s.worker ⟨index, hindex⟩ = .exited) : GoesOn s := by
  rcases h.goesOn_or_free with hheld | hfree
  · exact hheld
  apply goesOn_of_dispatcher hawake
  rcases hpoint : s.dispatcher <;> rw [hpoint] at hrests hstart hstop <;>
    simp only [CartWorkerPool.dispatcherStep, hpoint, acquire, hfree]
  case failed | idle | closed => exact absurd trivial hrests
  case waitStart | lastWait => rw [if_neg (hstart trivial), Option.isSome_some]
  case waitStop => rw [if_neg (hstop trivial), Option.isSome_some]
  case failJoin count index => exact joinStep_isSome (hjoin index count (.inl hpoint))
  case join index => exact joinStep_isSome (hjoin index _ (.inr ⟨hpoint, rfl⟩))
  case create | await => split <;> rfl
  all_goals rfl

theorem Starting.goesOn {index : Nat} (h : Starting rows index s) (hsound : Sound s) : GoesOn s := by
  have hdispatcher := h.dispatcher
  apply hsound.goesOn_of_dispatching <;> intros <;> rcases hpoint : s.dispatcher <;>
    simp_all [DispatcherPoint.Rests, DispatcherPoint.AtStart, DispatcherPoint.AtStop]

/-- A started worker finds the gate open and the pool going down. -/
theorem Failing.goesOn (h : Failing s) (hsound : Sound s) (hrests : ¬ s.dispatcher.Rests) :
    GoesOn s := by
  have hdispatcher := h.dispatcher
  have hfailing := hsound.failing
  rcases hpoint : s.dispatcher <;> rw [hpoint] at hdispatcher hfailing
  case failed =>
      rw [hpoint] at hrests
      exact absurd trivial hrests
  case failUnlock => apply hsound.goesOn_of_dispatching hrests <;>
      simp [hpoint, DispatcherPoint.AtStart, DispatcherPoint.AtStop]
  case failJoin count index =>
      have habandoned : Abandoned count index s := hfailing
      by_cases hexited : index < count →
          ∃ hindex : index < n, s.worker ⟨index, hindex⟩ = .exited
      · apply hsound.goesOn_of_dispatching hrests
        case hjoin =>
            rintro i k (heq | ⟨heq, -⟩)
            · rw [hpoint] at heq
              cases heq
              exact hexited
            · rw [hpoint] at heq
              cases heq
        all_goals simp [hpoint, DispatcherPoint.AtStart, DispatcherPoint.AtStop]
      · obtain ⟨hcount, hrunning⟩ := Classical.not_imp.mp hexited
        have hindex : index < n := Nat.lt_trans hcount habandoned.bound
        have hborn := habandoned.born ⟨index, hindex⟩ hcount
        have hrefused := (h.worker ⟨index, hindex⟩).resolve_right hborn
        apply hsound.goesOn_of_live hborn (fun hgone => hrunning ⟨hindex, hgone⟩)
          (fun _ => habandoned.ready)
        · intro hwait
          rw [hwait] at hrefused
          exact hrefused.elim
        · intro hwait
          rw [hwait] at hrefused
          exact hrefused.elim
  all_goals exact hdispatcher.elim

theorem Opening.goesOn (h : Opening rows s) (hsound : Sound s) (hrests : ¬ s.dispatcher.Rests) :
    GoesOn s := by
  by_cases hreleased : s.dispatcher = .awaitAsleep → s.workerCount ≤ s.startupReleased
  · have hdispatcher := h.dispatcher
    apply hsound.goesOn_of_dispatching hrests hreleased <;> intros <;>
      rcases hpoint : s.dispatcher <;>
      simp_all [DispatcherPoint.AtStart, DispatcherPoint.AtStop]
  · -- somebody is not through the gate, and it is open
    obtain ⟨-, hfew⟩ := Classical.not_imp.mp hreleased
    obtain ⟨i, hi⟩ : ∃ i, (s.worker i).passed = false := by
      by_contra hall
      apply hfew
      have huniv : (Finset.univ.filter fun i => (s.worker i).passed) = Finset.univ :=
        Finset.filter_true_of_mem fun i _ => by simpa using not_exists.mp hall i
      rw [h.released, huniv, Finset.card_univ, Fintype.card_fin, h.sized.2]
    have hentering := h.worker i
    apply hsound.goesOn_of_live (i := i)
    · intro hunborn
      rw [hunborn] at hentering
      exact hentering
    · intro hgone
      rw [hgone] at hentering
      exact hentering
    · exact fun _ => h.ready
    · intro hwait
      rw [hwait] at hi
      cases hi
    · intro hwait
      rw [hwait] at hentering
      exact hentering.elim

/-- Who waits at the start barrier waits for somebody who does not. -/
theorem Outside.goesOn (h : Outside rows s) (hstart : ∀ q, q ∈ s.startWaiting ↔ s.AtStart q)
    (hsound : Sound s) (hrests : ¬ s.dispatcher.Rests) : GoesOn s := by
  by_cases hheld : s.dispatcher.AtStart ∧ none ∈ s.startWaiting
  · obtain ⟨i, hi⟩ := exists_missing hsound.start hstart hheld.2
    have houtside := h.worker i
    rcases hpoint : s.worker i <;> rw [hpoint] at hi houtside
    case unlock | arriveStart | waitStop =>
        apply hsound.goesOn_of_live (i := i) <;> simp [hpoint, h.stop]
    case waitStart => exact absurd trivial hi
    all_goals exact houtside.elim
  · have hdispatcher := h.dispatcher
    apply hsound.goesOn_of_dispatching hrests
    · intro hpoint
      rw [hpoint] at hdispatcher
      exact hdispatcher.elim
    · exact fun hat hnone => hheld ⟨hat, hnone⟩
    · simp [h.stop]
    · rintro i k (hpoint | ⟨hpoint, -⟩)
      · rw [hpoint] at hdispatcher
        exact hdispatcher.elim
      · rw [hpoint] at hdispatcher
        exact hdispatcher.elim

/-- And at the stop barrier. -/
theorem Inside.goesOn {call : PoolDispatch J S n} (h : Inside rows call s)
    (hstop : ∀ q, q ∈ s.stopWaiting ↔ s.AtStop q) (hsound : Sound s)
    (hrests : ¬ s.dispatcher.Rests) : GoesOn s := by
  by_cases hheld : s.dispatcher.AtStop ∧ none ∈ s.stopWaiting
  · obtain ⟨i, hi⟩ := exists_missing hsound.stop hstop hheld.2
    have hinside := h.worker i
    rcases hpoint : s.worker i <;> rw [hpoint] at hi hinside
    case waitStop => exact absurd trivial hi
    case unborn | exited | asleep => exact hinside.elim
    all_goals apply hsound.goesOn_of_live (i := i) <;> simp [hpoint, h.start]
  · have hdispatcher := h.dispatcher
    apply hsound.goesOn_of_dispatching hrests
    · intro hpoint
      rw [hpoint] at hdispatcher
      exact hdispatcher.elim
    · simp [h.start]
    · exact fun hat hnone => hheld ⟨hat, hnone⟩
    · rintro i k (hpoint | ⟨hpoint, -⟩)
      · rw [hpoint] at hdispatcher
        exact hdispatcher.elim
      · rw [hpoint] at hdispatcher
        exact hdispatcher.elim

theorem Closing.goesOn (h : Closing rows s) (hsound : Sound s) (hrests : ¬ s.dispatcher.Rests) :
    GoesOn s := by
  have hdispatcher := h.dispatcher
  rcases hpoint : s.dispatcher <;> rw [hpoint] at hdispatcher
  case closed =>
      rw [hpoint] at hrests
      exact absurd trivial hrests
  case lastWait =>
      apply hsound.goesOn_of_dispatching hrests <;>
        simp [hpoint, h.start, DispatcherPoint.AtStop]
  case join index =>
      obtain ⟨hcount, -, -⟩ := hdispatcher
      by_cases hexited : index < n → ∃ hindex : index < n, s.worker ⟨index, hindex⟩ = .exited
      · apply hsound.goesOn_of_dispatching hrests
        case hjoin =>
            rintro i k (heq | ⟨heq, rfl⟩)
            · rw [hpoint] at heq
              cases heq
            · rw [hpoint] at heq
              cases heq
              rw [hcount]
              exact hexited
        all_goals simp [hpoint, DispatcherPoint.AtStart, DispatcherPoint.AtStop]
      · obtain ⟨hindex, hrunning⟩ := Classical.not_imp.mp hexited
        have hleaving := h.worker ⟨index, hindex⟩
        have hlive : s.worker ⟨index, hindex⟩ ≠ .exited := fun hgone => hrunning ⟨hindex, hgone⟩
        rcases hat : s.worker ⟨index, hindex⟩ <;> rw [hat] at hleaving
        case exited => exact absurd hat hlive
        case waitStart | readDown =>
            apply hsound.goesOn_of_live (i := ⟨index, hindex⟩) <;> simp [hat, h.start]
        all_goals exact hleaving.elim
  all_goals exact hdispatcher.elim

/-- While a call is under way somebody goes on. -/
theorem Sound.goesOn (h : Sound s) (hera : Era rows s) (hrests : ¬ s.dispatcher.Rests) :
    GoesOn s := by
  cases hera with
  | starting index hera => exact hera.goesOn h
  | failing hera => exact hera.goesOn h hrests
  | opening hera => exact hera.goesOn h hrests
  | outside hera hstart => exact hera.goesOn hstart h hrests
  | inside call hera hstop => exact hera.goesOn hstop h hrests
  | closing hera => exact hera.goesOn h hrests

end CartWorkerPool

end VitaLinuxPort
