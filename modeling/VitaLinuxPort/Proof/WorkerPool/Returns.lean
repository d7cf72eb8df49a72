import Mathlib.Algebra.Order.BigOperators.Group.Finset
import VitaLinuxPort.Proof.WorkerPool.Progress

/-!
# Every call of the pool returns

How far a thread still has to go before the call that is under way is over. Every step takes one thread
nearer and no other further away, so a call is over after boundedly many steps in whatever order the
threads take them. The workers count on the call until it has opened the last barrier it reaches; what
is left for them after that is the way back to the start barrier.
-/

namespace VitaLinuxPort

/-- The steps a worker can still take. `ready`: the gate is open. `settled`: the call opens no more
barriers. `held`: the worker is held back at the stop barrier. -/
def WorkerPoint.distance {J S : Type} (ready settled held : Bool) : WorkerPoint J S → Nat
  | .unborn => 21
  | .lock => 20
  | .gate => if ready then 17 else 19
  | .asleep => 18
  | .checkDown => 16
  | .refuse | .release => 15
  | .unlock => 14
  | .arriveStart => if settled then 1 else 13
  | .waitStart => if settled then 0 else 12
  | .readDown => 11
  | .readBounds => 10
  | .readJob _ _ => 9
  | .readSlot _ _ _ => 8
  | .readGeneration _ _ _ _ => 7
  | .call _ _ _ _ _ => 6
  | .running => 5
  | .arriveStop => 4
  | .waitStop => if held then 3 else if settled then 2 else 14
  | .exited => 0

/-- The steps the dispatching thread can still take. -/
def DispatcherPoint.distance {J S : Type} {n : Nat} (missing : Bool) : DispatcherPoint J S n → Nat
  | .create index => n + 7 + (n - index)
  | .failLock _ => n + 5
  | .failDown _ => n + 4
  | .failReady _ => n + 3
  | .failUnlock _ => n + 2
  | .failJoin _ started => n - started + 1
  | .openLock => 6
  | .openReady => 5
  | .await => if missing then 4 else 2
  | .awaitAsleep => 3
  | .openUnlock => 1
  | .writeJob _ => 7
  | .writeSlots _ => 6
  | .writeGeneration _ => 5
  | .arriveStart _ => 4
  | .waitStart _ => 3
  | .arriveStop _ => 2
  | .waitStop _ => 1
  | .setDown => n + 5
  | .lastArrive => n + 4
  | .lastWait => n + 3
  | .join index => n - index + 1
  | .failed | .idle | .closed => 0

theorem WorkerPoint.distance_bound {J S : Type} (ready settled held : Bool)
    (point : WorkerPoint J S) : point.distance ready settled held ≤ 21 := by
  rcases point <;> simp only [distance] <;> (try split) <;> (try split) <;> omega

theorem DispatcherPoint.distance_bound {J S : Type} {n : Nat} (missing : Bool)
    (point : DispatcherPoint J S n) : point.distance missing ≤ 2 * n + 7 := by
  rcases point <;> simp only [distance] <;> (try split) <;> omega

namespace CartWorkerPool

variable {J S : Type} {n : Nat} {rows : Int32} {s t : CartWorkerPool J S n}

/-- The call under way opens no more barriers. -/
def settled (s : CartWorkerPool J S n) : Bool :=
  match s.dispatcher with
  | .openUnlock | .idle => true
  | .waitStop _ => decide (none ∉ s.stopWaiting)
  | _ => false

def workerDistance (s : CartWorkerPool J S n) (i : Fin n) : Nat :=
  (s.worker i).distance s.startupReady s.settled (decide (some i ∈ s.stopWaiting))

def dispatcherDistance (s : CartWorkerPool J S n) : Nat :=
  s.dispatcher.distance (decide (s.startupReleased < s.workerCount))

def distance (s : CartWorkerPool J S n) : Nat :=
  (∑ i, s.workerDistance i) + s.dispatcherDistance

theorem distance_bound (s : CartWorkerPool J S n) : s.distance ≤ 23 * n + 7 := by
  have hworkers : ∑ i, s.workerDistance i ≤ n * 21 := by
    have hsum := Finset.sum_le_card_nsmul Finset.univ s.workerDistance 21
      fun i _ => WorkerPoint.distance_bound ..
    rw [Finset.card_univ, Fintype.card_fin] at hsum
    exact hsum
  have hdispatcher : s.dispatcherDistance ≤ 2 * n + 7 := DispatcherPoint.distance_bound ..
  unfold distance
  omega

/-! ### What brings a thread nearer that does nothing -/

/-- The gate does not close, and a worker that the stop barrier lets go finds the call settled. -/
theorem workerDistance_le {i : Fin n} (hworker : t.worker i = s.worker i)
    (hready : s.startupReady = true → t.startupReady = true)
    (hsettled : s.settled = true → t.settled = true)
    (hheld : some i ∈ t.stopWaiting → some i ∈ s.stopWaiting)
    (hfreed : some i ∈ s.stopWaiting → some i ∉ t.stopWaiting → t.settled = true) :
    t.workerDistance i ≤ s.workerDistance i := by
  unfold workerDistance
  rw [hworker]
  rcases s.worker i <;> simp only [WorkerPoint.distance, Nat.le_refl]
  case gate =>
      cases hbefore : s.startupReady
      · split <;> simp
      · simp [hready hbefore]
  case arriveStart | waitStart =>
      cases hbefore : s.settled
      · split <;> simp
      · simp [hsettled hbefore]
  case waitStop =>
      by_cases hin : some i ∈ s.stopWaiting
      · by_cases hout : some i ∈ t.stopWaiting
        · simp [hin, hout]
        · simp [hin, hout, hfreed hin hout]
      · have hout : some i ∉ t.stopWaiting := fun h => hin (hheld h)
        cases hbefore : s.settled
        · simp only [hin, hout, decide_false, Bool.false_eq_true, if_false]
          split <;> omega
        · simp [hin, hout, hsettled hbefore]

theorem mem_of_mem_arrive {waiting : Finset (PoolThread n)} {p q : PoolThread n} (hne : q ≠ p)
    (h : q ∈ Barrier.arrive (n + 1) waiting p) : q ∈ waiting := by
  unfold Barrier.arrive at h
  split at h
  · exact absurd h (Finset.notMem_empty q)
  · exact (Finset.mem_insert.mp h).resolve_left hne

/-- Who is let go is let go with everybody. -/
theorem arrive_eq_empty {waiting : Finset (PoolThread n)} {p q : PoolThread n} (hin : q ∈ waiting)
    (hout : q ∉ Barrier.arrive (n + 1) waiting p) :
    Barrier.arrive (n + 1) waiting p = ∅ ∧ ∀ r, r ≠ p → r ∈ waiting := by
  unfold Barrier.arrive at hout ⊢
  split at hout
  · next hcard =>
      rw [if_pos hcard]
      refine ⟨rfl, fun r hr => ?_⟩
      have huniv : insert p waiting = Finset.univ := by
        rw [← Finset.card_eq_iff_eq_univ, hcard]
        simp
      exact (Finset.mem_insert.mp (huniv ▸ Finset.mem_univ r)).resolve_left hr
  · exact absurd (Finset.mem_insert_of_mem hin) hout

/-- At the stop barrier the dispatching thread is in `waitStop`. -/
theorem Era.atStop (h : Era rows s) {i : Fin n} (hpoint : s.worker i = .arriveStop) :
    ∃ call, Inside rows call s ∧ ∀ q, q ∈ s.stopWaiting ↔ s.AtStop q := by
  cases h with
  | starting index h =>
      have hi := h.worker i
      rw [hpoint] at hi
      split at hi
      · exact hi.elim
      · cases hi
  | failing h =>
      have hi := h.worker i
      rw [hpoint] at hi
      rcases hi with hi | hi
      · exact hi.elim
      · cases hi
  | opening h => exact (hpoint ▸ h.worker i).elim
  | outside h => exact (hpoint ▸ h.worker i).elim
  | inside call h hstop => exact ⟨call, h, hstop⟩
  | closing h => exact (hpoint ▸ h.worker i).elim

/-- A worker that has left the start barrier is in a round, or the pool closes. -/
theorem Era.not_settled (h : Era rows s) {i : Fin n} (hpoint : s.worker i = .waitStart)
    (hfree : some i ∉ s.startWaiting) : s.settled = false := by
  have hstart : s.AtStart (some i) := by
    show (s.worker i).AtStart
    rw [hpoint]
    trivial
  cases h with
  | starting index h =>
      have hi := h.worker i
      rw [hpoint] at hi
      split at hi
      · exact hi.elim
      · cases hi
  | failing h =>
      have hi := h.worker i
      rw [hpoint] at hi
      rcases hi with hi | hi
      · exact hi.elim
      · cases hi
  | opening h => exact absurd ((h.start _).mpr hstart) hfree
  | outside h hwaiting => exact absurd ((hwaiting _).mpr hstart) hfree
  | inside call h hstop =>
      have hdispatcher := h.dispatcher
      unfold settled
      split
      case h_1 hat => rw [hat] at hdispatcher; exact hdispatcher.elim
      case h_2 hat => rw [hat] at hdispatcher; exact hdispatcher.elim
      case h_3 other hat =>
          have hnone : none ∈ s.stopWaiting := (hstop none).mpr (by
            show s.dispatcher.AtStop
            rw [hat]
            trivial)
          simp [hnone]
      case h_4 => rfl
  | closing h =>
      have hdispatcher := h.dispatcher
      unfold settled
      split
      case h_1 hat => rw [hat] at hdispatcher; exact hdispatcher.elim
      case h_2 hat => rw [hat] at hdispatcher; exact hdispatcher.elim
      case h_3 other hat => rw [hat] at hdispatcher; exact hdispatcher.elim
      case h_4 => rfl

/-! ### What a worker's step does -/

theorem settled_of_atStop (h : s.dispatcher.AtStop) (hfree : none ∉ s.stopWaiting) :
    s.settled = true := by
  unfold settled
  rcases hpoint : s.dispatcher <;> rw [hpoint] at h
  case waitStop => simpa using hfree
  all_goals exact h.elim

theorem WorkerTurn.settled {i : Fin n} (hturn : WorkerTurn s i t) (h : s.settled = true) :
    t.settled = true := by
  unfold CartWorkerPool.settled at h ⊢
  rw [hturn.dispatcher]
  split at h
  · rfl
  · rfl
  · rcases hturn.stop with hstop | ⟨-, hstop⟩
    · rw [hstop]
      exact h
    · simp only [decide_eq_true_eq] at h ⊢
      rw [hstop]
      exact fun hnone => h (mem_of_mem_arrive (by simp) hnone)
  · cases h

/-- A worker arrives at the stop barrier, where it is held back or the call is settled. -/
theorem arrived_or_settled
    (hstop : ∀ q, q ∈ s.stopWaiting ↔ s.AtStop q) {i : Fin n}
    (hstep : t = { s.put i .waitStop with
      stopWaiting := Barrier.arrive (n + 1) s.stopWaiting (some i) }) :
    some i ∈ t.stopWaiting ∨ t.settled = true := by
  subst hstep
  rcases arrive_put hstop i .waitStop trivial with ⟨hall, hopens⟩ | ⟨_, hwaiting⟩
  · right
    exact settled_of_atStop (hall none) (by simp [hopens])
  · left
    rw [hwaiting]
    show (Function.update s.worker i .waitStop i).AtStop
    rw [Function.update_self]
    trivial

theorem workerDistance_lt (hera : Era rows s) {i : Fin n} (h : s.workerStep i = some t)
    (hawake : s.worker i = .asleep → s.startupReady = true) :
    t.workerDistance i < s.workerDistance i := by
  unfold workerDistance
  rcases hpoint : s.worker i <;> simp only [CartWorkerPool.workerStep, hpoint] at h
  case unborn | exited => cases h
  case lock =>
      cases acquire_map h
      simp only [Function.update_self, WorkerPoint.distance]
      split <;> omega
  case asleep =>
      cases acquire_map h
      simp [WorkerPoint.distance, hawake hpoint]
  case gate =>
      split at h
      · next hready =>
          cases h
          simp [WorkerPoint.distance, hready]
      · next hready =>
          cases h
          simp [WorkerPoint.distance, hready]
  case checkDown | readDown =>
      split at h <;> cases h <;> simp [WorkerPoint.distance]
  case unlock =>
      cases h
      simp only [Function.update_self, WorkerPoint.distance]
      split <;> omega
  case arriveStart =>
      cases h
      simp only [Function.update_self, WorkerPoint.distance]
      show (if s.settled then 0 else 12) < if s.settled then 1 else 13
      split <;> omega
  case waitStart =>
      split at h
      · cases h
      · next hfree =>
          cases h
          simp [WorkerPoint.distance, hera.not_settled hpoint hfree]
  case arriveStop =>
      obtain ⟨call, -, hstop⟩ := hera.atStop hpoint
      have hcases := arrived_or_settled hstop (Option.some.inj h).symm
      cases h
      simp only [Function.update_self, WorkerPoint.distance]
      rcases hcases with hheld | hsettled
      · rw [if_pos (by simpa using hheld)]
        omega
      · rw [hsettled]
        split <;> simp
  case waitStop =>
      split at h
      · cases h
      · next hfree =>
          cases h
          simp only [Function.update_self, WorkerPoint.distance, hfree, decide_false]
          show (if s.settled then 1 else 13) < if s.settled then 2 else 14
          split <;> omega
  all_goals
    cases h
    simp [WorkerPoint.distance]

/-- No other thread is put back. -/
theorem WorkerTurn.workerDistance_le {i : Fin n} (hturn : WorkerTurn s i t) (hera : Era rows s)
    {j : Fin n} (hne : j ≠ i) :
    t.workerDistance j ≤ s.workerDistance j := by
  obtain ⟨point, hworker, -⟩ := hturn.point
  apply CartWorkerPool.workerDistance_le
  · rw [hworker, Function.update_of_ne hne]
  · exact fun hready => hturn.ready.trans hready
  · exact hturn.settled
  · intro hheld
    rcases hturn.stop with hstop | ⟨-, hstop⟩ <;> rw [hstop] at hheld
    · exact hheld
    · exact mem_of_mem_arrive (by simpa using hne) hheld
  · intro hheld hfreed
    rcases hturn.stop with hstop | ⟨hpoint, hstop⟩ <;> rw [hstop] at hfreed
    · exact absurd hheld hfreed
    · obtain ⟨hempty, hothers⟩ := arrive_eq_empty hheld hfreed
      obtain ⟨call, -, hat⟩ := hera.atStop hpoint
      have hnone : s.dispatcher.AtStop := (hat none).mp (hothers none (by simp))
      rw [← hturn.dispatcher] at hnone
      exact settled_of_atStop hnone (by simp [hstop, hempty])

theorem WorkerTurn.dispatcherDistance_le {i : Fin n} (hturn : WorkerTurn s i t) :
    t.dispatcherDistance ≤ s.dispatcherDistance := by
  unfold dispatcherDistance
  rw [hturn.dispatcher, hturn.count]
  rcases s.dispatcher <;> simp only [DispatcherPoint.distance, Nat.le_refl]
  case await =>
      -- the worker may be the last to be through the gate
      by_cases hfew : t.startupReleased < s.workerCount
      · simp [hfew, Nat.lt_of_le_of_lt hturn.released hfew]
      · simp only [hfew, decide_false, Bool.false_eq_true, if_false]
        split <;> omega

theorem distance_lt_of_worker (hera : Era rows s) {i : Fin n} (h : s.workerStep i = some t)
    (hawake : s.worker i = .asleep → s.startupReady = true) : t.distance < s.distance := by
  have hturn := workerTurn h
  have hsum : ∑ j, t.workerDistance j < ∑ j, s.workerDistance j := by
    refine Finset.sum_lt_sum (fun j _ => ?_) ⟨i, Finset.mem_univ i, workerDistance_lt hera h hawake⟩
    by_cases hji : j = i
    · rw [hji]
      exact (workerDistance_lt hera h hawake).le
    · exact hturn.workerDistance_le hera hji
  exact Nat.add_lt_add_of_lt_of_le hsum hturn.dispatcherDistance_le

/-! ### What a step of the dispatching thread does -/

theorem dispatcherStep_settled {move : DispatcherMove J S n} (h : s.dispatcherStep move = some t)
    (hquiet : PoolMove.Quiet (.dispatcher move)) (hsettled : s.settled = true) :
    t.settled = true := by
  unfold settled at hsettled
  rcases dispatcherStep_cases h with ⟨k, hpoint, rfl⟩ | ⟨hpoint, _⟩ | rfl
  · rw [hpoint] at hsettled
    cases hsettled
  · cases move with
    | go =>
        simp only [CartWorkerPool.dispatcherStep, hpoint] at h
        cases h
    | createFails =>
        simp only [CartWorkerPool.dispatcherStep, hpoint] at h
        cases h
    | dispatch call => exact hquiet.elim
    | shutdown => exact hquiet.elim
  · rcases hpoint : s.dispatcher <;> rw [hpoint] at hsettled <;>
      simp only [CartWorkerPool.dispatcherStep, hpoint] at h
    case openUnlock =>
        cases h
        rfl
    case waitStop =>
        split at h <;> cases h
        rfl
    case idle => cases h
    all_goals cases hsettled

theorem dispatcherStep_ready {move : DispatcherMove J S n} (h : s.dispatcherStep move = some t)
    (hready : s.startupReady = true) : t.startupReady = true := by
  rcases dispatcherStep_cases h with ⟨k, hpoint, rfl⟩ | ⟨hpoint, ⟨call, rfl⟩ | rfl⟩ | rfl
  · exact hready
  · exact hready
  · exact hready
  rcases hpoint : s.dispatcher <;> simp only [CartWorkerPool.dispatcherStep, hpoint] at h
  case failLock | openLock | awaitAsleep =>
      cases acquire_map h
      exact hready
  case failJoin | join =>
      rcases joinStep_cases h with ⟨_, _, _, rfl⟩ | ⟨_, rfl⟩
      · exact hready
      · exact hready
  case create | await | waitStart | waitStop | lastWait =>
      split at h <;> cases h <;> exact hready
  case failReady | openReady =>
      cases h
      rfl
  case failed | idle | closed => cases h
  all_goals
    cases h
    exact hready

theorem DispatcherTurn.workerDistance_le (hturn : DispatcherTurn s t) {move : DispatcherMove J S n}
    (h : s.dispatcherStep move = some t) (hquiet : PoolMove.Quiet (.dispatcher move))
    (hera : Era rows s) (i : Fin n) : t.workerDistance i ≤ s.workerDistance i := by
  rcases hturn.worker i with hsame | ⟨hcreate, hlock⟩
  · apply CartWorkerPool.workerDistance_le hsame
    · exact dispatcherStep_ready h
    · exact dispatcherStep_settled h hquiet
    · intro hheld
      rcases hturn.stop with hstop | ⟨-, hstop⟩ <;> rw [hstop] at hheld
      · exact hheld
      · exact mem_of_mem_arrive (by simp) hheld
    · intro hheld hfreed
      rcases hturn.stop with hstop | ⟨hat, hstop⟩
      · exact absurd (hstop ▸ hheld) hfreed
      · rw [hstop] at hfreed
        exact settled_of_atStop hat (by simp [hstop, (arrive_eq_empty hheld hfreed).1])
  · have hunborn := hera.unborn_of_create hcreate
    unfold workerDistance
    rw [hlock, hunborn]
    simp [WorkerPoint.distance]

theorem dispatcherDistance_lt {move : DispatcherMove J S n} (h : s.dispatcherStep move = some t)
    (hquiet : PoolMove.Quiet (.dispatcher move))
    (hawake : s.dispatcher = .awaitAsleep → s.workerCount ≤ s.startupReleased) :
    t.dispatcherDistance < s.dispatcherDistance := by
  unfold dispatcherDistance
  cases move with
  | dispatch call => exact hquiet.elim
  | shutdown => exact hquiet.elim
  | createFails =>
      rcases hpoint : s.dispatcher <;> simp only [CartWorkerPool.dispatcherStep, hpoint] at h
      case create index =>
          split at h <;> cases h
          simp only [DispatcherPoint.distance]
          omega
      all_goals cases h
  | go =>
      rcases hpoint : s.dispatcher <;> simp only [CartWorkerPool.dispatcherStep, hpoint] at h
      case create index =>
          split at h <;> cases h <;> simp only [DispatcherPoint.distance] <;> omega
      case failLock | openLock =>
          cases acquire_map h
          simp [DispatcherPoint.distance]
      case failJoin index started =>
          rcases joinStep_cases h with ⟨hstarted, _, _, rfl⟩ | ⟨_, rfl⟩
          · simp only [DispatcherPoint.distance]
            omega
          · simp [DispatcherPoint.distance]
      case join index =>
          rcases joinStep_cases h with ⟨hindex, _, _, rfl⟩ | ⟨_, rfl⟩
          · simp only [DispatcherPoint.distance]
            omega
          · simp [DispatcherPoint.distance]
      case await =>
          split at h
          · next hfew =>
              cases h
              simp [DispatcherPoint.distance, hfew]
          · next hall =>
              cases h
              simp [DispatcherPoint.distance, hall]
      case awaitAsleep =>
          cases acquire_map h
          simp [DispatcherPoint.distance, Nat.not_lt.mpr (hawake hpoint)]
      case waitStart | waitStop | lastWait =>
          split at h <;> cases h
          simp only [DispatcherPoint.distance]
          omega
      case openReady =>
          cases h
          simp only [DispatcherPoint.distance]
          split <;> omega
      case failed | idle | closed => cases h
      all_goals
        cases h
        simp only [DispatcherPoint.distance]
        omega

theorem distance_lt_of_dispatcher (hera : Era rows s) {move : DispatcherMove J S n}
    (h : s.dispatcherStep move = some t) (hquiet : PoolMove.Quiet (.dispatcher move))
    (hawake : s.dispatcher = .awaitAsleep → s.workerCount ≤ s.startupReleased) :
    t.distance < s.distance :=
  Nat.add_lt_add_of_le_of_lt
    (Finset.sum_le_sum fun i _ => (dispatcherTurn h).workerDistance_le h hquiet hera i)
    (dispatcherDistance_lt h hquiet hawake)

theorem Advances.distance_lt {move : PoolMove J S n} (h : Advances s move t) (hera : Era rows s) :
    t.distance < s.distance := by
  cases move with
  | worker i => exact distance_lt_of_worker hera h.steps (h.worker i rfl)
  | dispatcher choice =>
      exact distance_lt_of_dispatcher hera h.steps h.quiet (h.dispatcher choice rfl)

theorem Advances.era_and_sound {move : PoolMove J S n} (h : Advances s move t)
    (hboth : Era rows s ∧ Sound s) : Era rows t ∧ Sound t :=
  ⟨hboth.1.step h.steps, hboth.2.step hboth.1 h.steps⟩

private def dispatcherGoes (k : Nat) : List (PoolMove Nat Nat 1) := List.replicate k (.dispatcher .go)

private def workerGoes (k : Nat) : List (PoolMove Nat Nat 1) :=
  List.replicate k (.worker ⟨0, by decide⟩)

/-- One worker starts and a job is dispatched. -/
private def dispatched : List (PoolMove Nat Nat 1) :=
  dispatcherGoes 5 ++ workerGoes 6 ++ dispatcherGoes 3 ++ [.dispatcher (.dispatch ⟨7, Fin.val, 1⟩)]

private theorem dispatched_runs : (execute next (created 1 4) dispatched).isSome = true := by
  decide

/-- A start that fails leaves no thread behind: every worker that was created has returned, and none
has run a job. -/
theorem failed_leaves_none {moves : List (PoolMove J S n)}
    (run : Run Steps (created n rows) moves s) (hfailed : s.dispatcher = .failed) :
    (∀ i, s.worker i = .unborn ∨ s.worker i = .exited) ∧ s.log = [] := by
  obtain ⟨hera, hsound⟩ := era_and_sound run
  have hfailing := hsound.failing
  rw [hfailed] at hfailing
  obtain ⟨index, habandoned⟩ := hfailing
  refine ⟨fun i => ?_, ?_⟩
  · by_cases hi : i < index
    · exact .inr (habandoned.joined i hi)
    · exact .inl (habandoned.unborn i (Nat.le_of_not_lt hi))
  · cases hera with
    | starting index h => exact (hfailed ▸ h.dispatcher).elim
    | failing h => exact h.log
    | opening h => exact h.log
    | outside h => exact (hfailed ▸ h.dispatcher).elim
    | inside call h => exact (hfailed ▸ h.dispatcher).elim
    | closing h => exact (hfailed ▸ h.dispatcher).elim

/-- The second of two workers cannot be created. -/
private def secondFails : List (PoolMove Nat Nat 2) :=
  [.dispatcher .go, .dispatcher .createFails] ++ List.replicate 4 (.dispatcher .go) ++
    List.replicate 4 (.worker ⟨0, by decide⟩) ++ List.replicate 2 (.dispatcher .go)

private theorem secondFails_runs : (execute next (created 2 4) secondFails).isSome = true := by
  decide

theorem failed_leaves_none_secondFails : ∃ s : CartWorkerPool Nat Nat 2,
    Run Steps (created 2 4) secondFails s ∧ (∀ i, s.worker i = .unborn ∨ s.worker i = .exited) ∧
      s.log = [] := by
  have hrun : Run Steps (created 2 4) secondFails
      ((execute next (created 2 4) secondFails).get secondFails_runs) :=
    Run.of_execute (Option.some_get secondFails_runs).symm
  exact ⟨_, hrun, failed_leaves_none hrun rfl⟩

end CartWorkerPool

end VitaLinuxPort
