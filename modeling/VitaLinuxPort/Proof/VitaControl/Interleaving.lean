import VitaLinuxPort.Proof.VitaControl.RateState
import VitaLinuxPort.Lib.Lock
import VitaLinuxPort.Lib.Run

/-!
# Concurrent invocations

The clock is read before the lock is taken, so the invocations may take the lock in another order
than the one they read the clock in. The guard `now_ns >= previous_ns` lets an invocation pass whose
reading is earlier than the timestamp it finds: it is granted however close the two are, and puts the
earlier timestamp in the file. The timestamp in the file is also lost where the file is truncated
and then not written, and not seen where it cannot be read. A run without any of this is rate limited.
-/

namespace VitaLinuxPort

/-- Two timestamps with at least a period between them. -/
def Apart (period : Nat) (a b : UInt64) : Prop :=
  a.toNat + period ≤ b.toNat ∨ b.toNat + period ≤ a.toNat

namespace ControlPoint

def Locked : ControlPoint → Prop
  | .reading _ _ | .storing _ | .unlocking _ => True
  | _ => False

def Carries (intervalMs : UInt64) : ControlPoint → Prop
  | .opening ms _ | .locking ms _ | .reading ms _ => ms = intervalMs
  | _ => True

end ControlPoint

namespace ControlSystem

variable {ι : Type*} [DecidableEq ι] {config : ControlConfig} {intervalMs : UInt64}
  {s t : ControlSystem ι} {p : ι} {answer : ControlAnswer}

def lastGranted (s : ControlSystem ι) : Option UInt64 := s.granted.getLast?.map Prod.snd

/-- The step overlooks the last granted invocation: it reads the file with a clock reading from
before that grant, or cannot read the file, or truncates the file and then fails to write it. -/
def Overlooks (s : ControlSystem ι) (event : ι × ControlAnswer) : Prop :=
  ∃ last ∈ s.lastGranted, match s.point event.1, event.2 with
    | .reading _ nowNs, .contents ok => ok = false ∨ nowNs < last
    | .storing nowNs, .stored outcome =>
        outcome ≠ .truncateFailed ∧ outcome ≠ .written (some (decimal nowNs).length)
    | _, _ => False

/-- What rate-limited invocations keep: the grants are an interval apart in their order, the last of
them stands in the file, and whoever is about to record a timestamp may. -/
structure Limited (intervalMs : UInt64) (s : ControlSystem ι) : Prop where
  locked : LockedBy ControlPoint.Locked s.point s.holder
  carries : ∀ p, (s.point p).Carries intervalMs
  grants : Limiter.Grants (intervalMs.toNat * 1000000) none (s.granted.map fun g => g.2.toNat)
  recorded : ∀ last ∈ s.lastGranted, s.file = some (decimal last)
  allowed : ∀ p nowNs, s.point p = .storing nowNs →
    Limiter.Allows (intervalMs.toNat * 1000000) (s.lastGranted.map UInt64.toNat) nowNs.toNat

omit [DecidableEq ι] in
theorem limited_start (file : Option CString) (clockNs : UInt64) :
    Limited intervalMs (start file clockNs : ControlSystem ι) where
  locked := LockedBy.free fun _ => id
  carries := fun _ => trivial
  grants := trivial
  recorded := by simp [start, lastGranted]
  allowed := by simp [start]

/-- A step of `p` to `next` that grants nothing. -/
structure Advance (config : ControlConfig) (s : ControlSystem ι) (p : ι) (answer : ControlAnswer)
    (next : ControlPoint) (t : ControlSystem ι) : Prop where
  point : t.point = Function.update s.point p next
  granted : t.granted = s.granted
  lock : LockedBy ControlPoint.Locked s.point s.holder →
    LockedBy ControlPoint.Locked t.point t.holder
  carries : ∀ {ms}, loadInterval config.override config.environment = some ms →
    (s.point p).Carries ms → next.Carries ms
  file : t.file = s.file ∨ t.file = some (s.file.getD []) ∨ ∃ nowNs outcome,
    s.point p = .storing nowNs ∧ answer = .stored outcome ∧ outcome ≠ .truncateFailed ∧
      outcome ≠ .written (some (decimal nowNs).length)
  storing : ∀ nowNs, next = .storing nowNs → ∃ ms ok, s.point p = .reading ms nowNs ∧
    answer = .contents ok ∧ (ok = true → retryMs ms nowNs (previousText s.file) = none)

/-- The step that records the timestamp of `p` and grants it. -/
structure Grant (s : ControlSystem ι) (p : ι) (nowNs : UInt64) (t : ControlSystem ι) : Prop where
  before : s.point p = .storing nowNs
  point : t.point = Function.update s.point p (.unlocking true)
  holder : t.holder = s.holder
  granted : t.granted = s.granted ++ [(p, nowNs)]
  file : t.file = some (decimal nowNs)

theorem Advance.quiet {next : ControlPoint} (hpoint : t.point = Function.update s.point p next)
    (hsame : t.granted = s.granted ∧ t.holder = s.holder ∧ t.file = s.file)
    (hborder : (s.point p).Locked ↔ next.Locked) (hcarries : ∀ ms, next.Carries ms)
    (hstoring : ∀ nowNs, next ≠ .storing nowNs) : Advance config s p answer next t where
  point := hpoint
  granted := hsame.1
  lock := by
    intro hlock
    rw [hpoint, hsame.2.1]
    exact hlock.move hborder
  carries := fun _ _ => hcarries _
  file := .inl hsame.2.2
  storing := fun nowNs heq => absurd heq (hstoring nowNs)

/-- What an invocation can do in one step. -/
theorem next_cases (h : s.next config p answer = some t) :
    (∃ next, Advance config s p answer next t) ∨ ∃ nowNs, Grant s p nowNs t := by
  have same : s.granted = s.granted ∧ s.holder = s.holder ∧ s.file = s.file := ⟨rfl, rfl, rfl⟩
  revert h
  fun_cases next config s p answer <;> intro h <;> cases h
  case case1 hpoint _ _ hload hle =>
      -- the clock is read
      refine .inl ⟨_, rfl, rfl, fun hlock => hlock.move (by rw [hpoint]; exact Iff.rfl), ?_,
        .inl rfl, nofun⟩
      intro ms hms _
      exact Option.some.inj (hload.symm.trans hms)
  case case4 hpoint =>
      -- the file is opened
      refine .inl ⟨_, rfl, rfl, fun hlock => hlock.move (by rw [hpoint]; exact Iff.rfl), ?_,
        .inr (.inl rfl), nofun⟩
      intro ms _ hcarries
      rwa [hpoint] at hcarries
  case case6 hpoint hfree =>
      -- the lock is taken
      refine .inl ⟨_, rfl, rfl, fun hlock => ?_, ?_, .inl rfl, nofun⟩
      · rw [hfree] at hlock
        exact hlock.acquire trivial
      · intro ms _ hcarries
        rwa [hpoint] at hcarries
  case case10 ok hpoint hretry =>
      -- the file is read and nothing in it forbids the grant
      refine .inl ⟨_, rfl, rfl, fun hlock => hlock.move (by rw [hpoint]; exact Iff.rfl),
        fun _ _ => trivial, .inl rfl, ?_⟩
      rintro nowNs ⟨⟩
      refine ⟨_, ok, hpoint, rfl, fun hok => ?_⟩
      rwa [if_pos hok] at hretry
  case case11 hpoint hlong =>
      -- a timestamp is never too long for its buffer
      exact absurd hlong (by have := length_decimal_lt ‹UInt64›; omega)
  case case12 hpoint _ =>
      refine .inr ⟨_, hpoint, rfl, rfl, rfl, ?_⟩
      simp only [StoreOutcome.contents, List.take_length]
  case case13 outcome hpoint _ hpartial =>
      -- the timestamp is not recorded, and the one in the file may be lost
      refine .inl ⟨_, rfl, rfl, fun hlock => hlock.move (by rw [hpoint]; exact Iff.rfl),
        fun _ _ => trivial, ?_, nofun⟩
      by_cases htruncate : outcome = .truncateFailed
      · subst htruncate
        exact .inl rfl
      · exact .inr (.inr ⟨_, outcome, hpoint, rfl, htruncate, hpartial⟩)
  case case14 granted hpoint =>
      -- the lock is given back
      refine .inl ⟨_, rfl, rfl, fun hlock => hlock.release (by rw [hpoint]; trivial) ?_, ?_,
        .inl rfl, ?_⟩ <;> cases granted
      · exact id
      · exact id
      · exact fun _ _ => trivial
      · exact fun _ _ => trivial
      · nofun
      · nofun
  -- what is left reports, exits or sends the signal
  all_goals
    have hpoint := ‹s.point p = _›
    exact .inl ⟨_, .quiet rfl same (by rw [hpoint]; exact Iff.rfl) (fun _ => trivial) nofun⟩

omit [DecidableEq ι] in
theorem lastGranted_eq_of_granted_eq (h : t.granted = s.granted) :
    t.lastGranted = s.lastGranted := by
  rw [lastGranted, lastGranted, h]

/-- A step that overlooks nothing keeps the file's memory of the last grant. -/
theorem Advance.recorded {next : ControlPoint} (hadv : Advance config s p answer next t)
    (hseen : ¬ Overlooks s (p, answer)) (hrec : ∀ last ∈ s.lastGranted, s.file = some (decimal last)) :
    ∀ last ∈ t.lastGranted, t.file = some (decimal last) := by
  intro last hlast
  rw [lastGranted_eq_of_granted_eq hadv.granted] at hlast
  have hfile := hrec last hlast
  rcases hadv.file with hsame | hopened | ⟨nowNs, outcome, hpoint, rfl, htruncated, hpartial⟩
  · rw [hsame, hfile]
  · rw [hopened, hfile, Option.getD_some]
  · refine absurd ⟨last, hlast, ?_⟩ hseen
    simp only [hpoint]
    exact ⟨htruncated, hpartial⟩

/-- A step that overlooks nothing lets only those record their timestamp that may. -/
theorem Advance.allows {next : ControlPoint} {nowNs : UInt64}
    (hadv : Advance config s p answer next t) (hinterval : intervalMs ≤ maxIntervalMs)
    (limited : Limited intervalMs s) (hseen : ¬ Overlooks s (p, answer))
    (hnext : next = .storing nowNs) :
    Limiter.Allows (intervalMs.toNat * 1000000) (s.lastGranted.map UInt64.toNat) nowNs.toNat := by
  obtain ⟨ms, ok, hpoint, rfl, hretry⟩ := hadv.storing nowNs hnext
  cases hlast : s.lastGranted with
  | none => simp
  | some last =>
      have hnot : ¬ (ok = false ∨ nowNs < last) := fun hbad =>
        hseen ⟨last, hlast, by simpa only [hpoint] using hbad⟩
      rw [not_or, Bool.not_eq_false, UInt64.not_lt] at hnot
      obtain ⟨hok, hle⟩ := hnot
      have hms : ms = intervalMs := by simpa [hpoint, ControlPoint.Carries] using limited.carries p
      have hdecided := hretry hok
      rw [limited.recorded last hlast, previousText_decimal, hms] at hdecided
      exact allows_of_retryMs_eq_none hinterval hle hdecided

theorem Limited.advance {next : ControlPoint} (limited : Limited intervalMs s)
    (hinterval : loadInterval config.override config.environment = some intervalMs)
    (hseen : ¬ Overlooks s (p, answer)) (hadv : Advance config s p answer next t) :
    Limited intervalMs t where
  locked := hadv.lock limited.locked
  carries := by
    intro q
    rw [hadv.point, Function.update_apply]
    split
    · next hq => exact hadv.carries hinterval (limited.carries p)
    · exact limited.carries q
  grants := hadv.granted ▸ limited.grants
  recorded := hadv.recorded hseen limited.recorded
  allowed := by
    intro q nowNs hq
    rw [lastGranted_eq_of_granted_eq hadv.granted]
    rw [hadv.point, Function.update_apply] at hq
    split at hq
    · exact hadv.allows (loadInterval_le hinterval) limited hseen hq
    · exact limited.allowed q nowNs hq

omit [DecidableEq ι] in
theorem lastGranted_concat {nowNs : UInt64} (h : t.granted = s.granted ++ [(p, nowNs)]) :
    t.lastGranted = some nowNs := by
  simp [lastGranted, h]

omit [DecidableEq ι] in
theorem getLast?_granted_toNat (s : ControlSystem ι) :
    (s.granted.map fun g => g.2.toNat).getLast? = s.lastGranted.map UInt64.toNat := by
  simp [lastGranted, List.getLast?_map, Function.comp_def]

theorem Limited.grant {nowNs : UInt64} (limited : Limited intervalMs s)
    (hgrant : Grant s p nowNs t) : Limited intervalMs t where
  locked := by
    rw [hgrant.point, hgrant.holder]
    exact limited.locked.move (by rw [hgrant.before]; exact Iff.rfl)
  carries := by
    intro q
    rw [hgrant.point, Function.update_apply]
    split
    · trivial
    · exact limited.carries q
  grants := by
    rw [hgrant.granted, List.map_append, List.map_singleton, Limiter.grants_concat, Option.or_none,
      getLast?_granted_toNat]
    exact ⟨limited.grants, limited.allowed p nowNs hgrant.before⟩
  recorded := by
    intro last hlast
    rw [lastGranted_concat hgrant.granted, Option.mem_some_iff] at hlast
    rw [hgrant.file, hlast]
  allowed := by
    -- whoever else is about to record would hold the lock that `p` holds
    intro q otherNs hq
    rw [hgrant.point, Function.update_apply] at hq
    split at hq
    · cases hq
    · next hne =>
        refine absurd (limited.locked.exclusive ?_ ?_) hne
        · rw [hq]
          trivial
        · rw [hgrant.before]
          trivial

theorem Limited.step {event : ι × ControlAnswer}
    (hinterval : loadInterval config.override config.environment = some intervalMs)
    (limited : Limited intervalMs s) (hseen : ¬ Overlooks s event) (h : Steps config s event t) :
    Limited intervalMs t := by
  rcases next_cases h with ⟨next, hadv⟩ | ⟨nowNs, hgrant⟩
  · exact limited.advance hinterval hseen hadv
  · exact limited.grant hgrant

omit [DecidableEq ι] in
theorem Limited.pairwise (limited : Limited intervalMs s) :
    s.granted.Pairwise fun g h => Apart (intervalMs.toNat * 1000000) g.2 h.2 := by
  rw [List.pairwise_iff_getElem]
  intro i j hi hj hij
  have hgap := limited.grants.gap hij (by simpa using hj)
  simp only [List.getElem_map] at hgap
  have hplaces : intervalMs.toNat * 1000000 ≤ (j - i) * (intervalMs.toNat * 1000000) :=
    Nat.le_mul_of_pos_left _ (by omega)
  exact .inl (by omega)

/-- In a run that overlooks no grant, the recorded timestamps of any two granted invocations are an
interval apart, in every state of the run. -/
theorem granted_apart_of_overlooks_nothing
    (hinterval : loadInterval config.override config.environment = some intervalMs)
    {file : Option CString} {clockNs : UInt64} {events : List (ι × ControlAnswer)}
    (hseen : ∀ past event rest u, events = past ++ event :: rest →
      Run (Steps config) (start file clockNs) past u → ¬ Overlooks u event) :
    ∀ past u, past <+: events → Run (Steps config) (start file clockNs) past u →
      u.granted.Pairwise fun g h => Apart (intervalMs.toNat * 1000000) g.2 h.2 := by
  intro past u hpre hpast
  have hlimited := Run.always_of_good
    (limited_start file clockNs)
    (fun _ _ _ _ limited hgood h => limited.step hinterval hgood h) hseen hpre hpast
  exact hlimited.pairwise

instance decidableOverlooks (s : ControlSystem ι) (event : ι × ControlAnswer) :
    Decidable (Overlooks s event) := by
  refine @Option.decidableExistsMem _ _ (fun last => ?_) s.lastGranted
  split <;> infer_instance

/-- The steps of an invocation that reads the clock and then runs alone until it sent its signal. -/
private def alone (p : Nat) (nowNs : UInt64) : List (Nat × ControlAnswer) :=
  [(p, .clock (some nowNs)), (p, .opened true), (p, .locked true), (p, .contents true),
    (p, .stored (.written (some (decimal nowNs).length))), (p, .unlocked), (p, .killed true)]

private def defaults : ControlConfig := ⟨none, none, 42⟩

private def outcome (events : List (Nat × ControlAnswer)) : Option (ControlSystem Nat) :=
  execute (fun s event => s.next defaults event.1 event.2) (start none 0) events

private def inTurn : List (Nat × ControlAnswer) := alone 0 1000 ++ alone 1 600000000

private theorem inTurn_isSome : (outcome inTurn).isSome = true := by decide

theorem granted_apart_of_overlooks_nothing_inTurn :
    ∃ t, Run (Steps defaults) (start none 0) inTurn t ∧ t.granted = [(0, 1000), (1, 600000000)] ∧
      t.granted.Pairwise fun g h => Apart (500 * 1000000) g.2 h.2 := by
  have hinterval : loadInterval defaults.override defaults.environment = some 500 := by
    decide
  have hseen : Throughout (fun s event => s.next defaults event.1 event.2)
      (fun u event => ¬ Overlooks u event) (start none 0) inTurn := by
    decide
  have hrun := Run.of_execute (Option.some_get inTurn_isSome).symm
  exact ⟨_, hrun, by decide,
    granted_apart_of_overlooks_nothing hinterval hseen.good_of_run _ _ (List.prefix_refl _) hrun⟩

private def overtaken : List (Nat × ControlAnswer) :=
  (0, .clock (some 1000)) :: alone 1 2000 ++ (alone 0 1000).tail

private theorem overtaken_isSome : (outcome overtaken).isSome = true := by decide

/-- Both invocations are granted and send their signal, a microsecond apart. -/
theorem overtaken_granted :
    loadInterval defaults.override defaults.environment = some 500 ∧
      ∃ t, Run (Steps defaults) (start none 0) overtaken t ∧ t.granted = [(1, 2000), (0, 1000)] ∧
        t.signalled = [1, 0] ∧ ¬ t.granted.Pairwise fun g h => Apart (500 * 1000000) g.2 h.2 := by
  have houtcome := (Option.some_get overtaken_isSome).symm
  have hgranted : ((outcome overtaken).get overtaken_isSome).granted = [(1, 2000), (0, 1000)] := by
    decide
  refine ⟨by decide, _, Run.of_execute houtcome, hgranted, by decide, ?_⟩
  rw [hgranted]
  simp [Apart]

end ControlSystem

end VitaLinuxPort
