import VitaLinuxPort.Lib.Run
import VitaLinuxPort.Proof.VitaControl.RateState

/-!
# What a refused call is told

Calls that do not overlap see in the file exactly the time of the last grant, however many calls have
been refused since. The wait that a refused call is told is the shortest in whole milliseconds after
which the same call is granted.
-/

namespace VitaLinuxPort

open CIntType

theorem updateRateState_of_some {file : Option CString} {call : RateCall} {retry : UInt64}
    (h : retryMs call.intervalMs call.nowNs (previousText file) = some retry) :
    updateRateState file call = (file.getD [], .limited retry) := by
  rw [updateRateState, h]

theorem updateRateState_of_none {file : Option CString} {call : RateCall}
    (h : retryMs call.intervalMs call.nowNs (previousText file) = none) :
    updateRateState file call = (decimal call.nowNs, .granted) := by
  have hshort := length_decimal_lt call.nowNs
  rw [updateRateState, h]
  exact if_neg (by omega)

/-- Nothing is granted. -/
def NoGrant (file : Option CString) (calls : List RateCall) : Prop :=
  .granted ∉ rateResults file calls

section Files

theorem fileAfter_cons (file : Option CString) (call : RateCall) (calls : List RateCall) :
    fileAfter file (call :: calls) = fileAfter (some (updateRateState file call).1) calls := rfl

theorem fileAfter_append (file : Option CString) (first second : List RateCall) :
    fileAfter file (first ++ second) = fileAfter (fileAfter file first) second :=
  List.foldl_append

/-- A refused call leaves the file as it is. -/
theorem fst_updateRateState_of_ne_granted {text : CString} {call : RateCall}
    (h : (updateRateState (some text) call).2 ≠ .granted) :
    (updateRateState (some text) call).1 = text := by
  cases hretry : retryMs call.intervalMs call.nowNs (previousText (some text)) with
  | some retry =>
    rw [updateRateState_of_some hretry]
    rfl
  | none =>
    rw [updateRateState_of_none hretry] at h
    exact absurd rfl h

theorem fileAfter_of_noGrant {text : CString} {calls : List RateCall}
    (h : NoGrant (some text) calls) : fileAfter (some text) calls = some text := by
  induction calls with
  | nil => rfl
  | cons call calls ih =>
    rw [NoGrant, rateResults, List.mem_cons, not_or] at h
    have hkept := fst_updateRateState_of_ne_granted fun heq => h.1 heq.symm
    rw [hkept] at h
    rw [fileAfter_cons, hkept]
    exact ih h.2

/-- A granted call leaves its time in the file. -/
theorem fst_updateRateState_of_granted {file : Option CString} {call : RateCall}
    (h : (updateRateState file call).2 = .granted) :
    (updateRateState file call).1 = decimal call.nowNs := by
  cases hretry : retryMs call.intervalMs call.nowNs (previousText file) with
  | some retry =>
    rw [updateRateState_of_some hretry] at h
    nomatch h
  | none => rw [updateRateState_of_none hretry]

theorem fileAfter_grant {file : Option CString} {before between : List RateCall} {grant : RateCall}
    (hgranted : (updateRateState (fileAfter file before) grant).2 = .granted)
    (hbetween : NoGrant (fileAfter file (before ++ [grant])) between) :
    fileAfter file (before ++ grant :: between) = some (decimal grant.nowNs) := by
  have hgrant : fileAfter file (before ++ [grant]) = some (decimal grant.nowNs) := by
    rw [fileAfter_append, fileAfter_cons, fst_updateRateState_of_granted hgranted]
    rfl
  have happend : before ++ grant :: between = (before ++ [grant]) ++ between := by simp
  rw [hgrant] at hbetween
  rw [happend, fileAfter_append, hgrant, fileAfter_of_noGrant hbetween]

end Files

section Advice

variable {last : UInt64} {call : RateCall}

/-- The interval in nanoseconds. -/
def RateCall.period (call : RateCall) : Nat := call.intervalMs.toNat * 1000000

theorem RateCall.period_le (call : RateCall) : call.period ≤ 3600000000000 := by
  have hle : call.intervalMs.toNat ≤ 3600000 := UInt64.le_iff_toNat_le.mp call.intervalMs_le
  rw [RateCall.period]
  omega

/-- Of a time that is not later the limiter is asked, and gives the wait where it refuses. -/
theorem retryMs_of_parseUnsigned {text : CString} (htext : parseUnsigned text = some last)
    (hle : last ≤ call.nowNs) :
    (Limiter.Allows call.period (some last.toNat) call.nowNs.toNat ∧
        retryMs call.intervalMs call.nowNs text = none) ∨
      (¬Limiter.Allows call.period (some last.toNat) call.nowNs.toNat ∧
        ∃ retry, retryMs call.intervalMs call.nowNs text = some retry ∧
          retry.toNat = Limiter.retry 1000000 call.period last.toNat call.nowNs.toNat) := by
  have hnow := UInt64.le_iff_toNat_le.mp hle
  have hsub : (call.nowNs - last).toNat = call.nowNs.toNat - last.toNat :=
    UInt64.toNat_sub_of_le _ _ hle
  have hmul : (call.intervalMs * 1000000).toNat = call.period :=
    toNat_mul_intervalMs call.intervalMs_le
  have hperiod := call.period_le
  rw [Limiter.allows_some]
  simp only [retryMs, htext, hle, true_and, UInt64.lt_iff_toNat_lt, hsub, hmul]
  by_cases hearly : call.nowNs.toNat - last.toNat < call.period
  · refine .inr ⟨by omega, _, if_pos hearly, ?_⟩
    have hleft : (call.intervalMs * 1000000 - (call.nowNs - last)).toNat
        = call.period - (call.nowNs.toNat - last.toNat) := by
      rw [UInt64.toNat_sub_of_le _ _ (UInt64.le_iff_toNat_le.mpr (by omega)), hmul, hsub]
    have hrounded : (call.intervalMs * 1000000 - (call.nowNs - last) + 999999).toNat
        = call.period - (call.nowNs.toNat - last.toNat) + (1000000 - 1) := by
      rw [UInt64.toNat_add, hleft, show (999999 : UInt64).toNat = 1000000 - 1 from rfl]
      exact Nat.mod_eq_of_lt (by omega)
    rw [UInt64.toNat_div, hrounded]
    rfl
  · exact .inl ⟨by omega, if_neg hearly⟩

theorem uint64_div_million {n : Nat} (h : n < 2 ^ 64) :
    uint64.div n 1000000 = some ((n / 1000000 : Nat) : Int) := by
  have hquot : (n : Int).tdiv 1000000 = ((n / 1000000 : Nat) : Int) :=
    (Int.ofNat_tdiv n 1000000).symm
  have hholds : uint64.Holds ((n : Int).tdiv 1000000) := by
    rw [hquot, holds_uint64_iff]
    omega
  rw [div_of_holds (by decide) hholds, hquot]

/-- No step of the computation wraps, whatever is in the file. -/
theorem checkedRetryMs_eq (call : RateCall) (text : CString) :
    checkedRetryMs call.intervalMs call.nowNs text
      = some ((retryMs call.intervalMs call.nowNs text).map fun retry => (retry.toNat : Int)) := by
  cases htext : parseUnsigned text with
  | none => simp only [checkedRetryMs, retryMs, htext, Option.map_none]
  | some last =>
    by_cases hle : last ≤ call.nowNs
    · have hnow := UInt64.le_iff_toNat_le.mp hle
      have hnowlt := call.nowNs.toNat_lt
      have hperiod := call.period_le
      have hinterval : call.period = call.intervalMs.toNat * 1000000 := rfl
      have hholds : uint64.Holds ((call.nowNs.toNat : Int) - last.toNat) :=
        holds_uint64_iff.mpr (by omega)
      have helapsed := sub_of_holds hholds
      have hlimit : uint64.mul call.intervalMs.toNat 1000000 = some (call.period : Int) := by
        rw [hinterval, Nat.cast_mul, Nat.cast_ofNat]
        exact mul_of_holds (holds_uint64_iff.mpr (by omega))
      simp only [checkedRetryMs, htext, if_pos hle, helapsed, hlimit, Option.bind_eq_bind,
        Option.bind_some]
      obtain ⟨hallows, hnone⟩ | ⟨hrefused, retry, hsome, hvalue⟩ :=
        retryMs_of_parseUnsigned htext hle
      · rw [Limiter.allows_some] at hallows
        rw [hnone, if_neg (by omega)]
        rfl
      · rw [Limiter.allows_some] at hrefused
        have hleft : uint64.sub call.period (call.nowNs.toNat - last.toNat)
            = some ((call.period - (call.nowNs.toNat - last.toNat) : Nat) : Int) := by
          rw [Int.ofNat_sub (by omega), Int.ofNat_sub hnow]
          exact sub_of_holds (holds_uint64_iff.mpr (by omega))
        have hrounded : uint64.add (call.period - (call.nowNs.toNat - last.toNat) : Nat) 999999
            = some ((call.period - (call.nowNs.toNat - last.toNat) + 999999 : Nat) : Int) := by
          rw [Nat.cast_add, Nat.cast_ofNat]
          exact add_of_holds (holds_uint64_iff.mpr (by omega))
        have hretry := uint64_div_million
          (n := call.period - (call.nowNs.toNat - last.toNat) + 999999) (by omega)
        rw [hsome, if_pos (by omega), hleft, Option.bind_some, hrounded, Option.bind_some, hretry,
          Option.map_some, hvalue, Limiter.retry]
        rfl
    · simp only [checkedRetryMs, retryMs, htext, hle, if_false, false_and, Option.map_none]

/-- A call whose time is not before the last grant. -/
theorem updateRateState_decimal (hle : last ≤ call.nowNs) :
    (Limiter.Allows call.period (some last.toNat) call.nowNs.toNat ∧
        updateRateState (some (decimal last)) call = (decimal call.nowNs, .granted)) ∨
      (¬Limiter.Allows call.period (some last.toNat) call.nowNs.toNat ∧
        ∃ retry, updateRateState (some (decimal last)) call = (decimal last, .limited retry) ∧
          retry.toNat = Limiter.retry 1000000 call.period last.toNat call.nowNs.toNat) := by
  have hread := previousText_decimal last
  obtain ⟨hallows, hnone⟩ | ⟨hrefused, retry, hsome, hvalue⟩ := retryMs_of_parseUnsigned (parseUnsigned_decimal last) hle
  · exact .inl ⟨hallows, updateRateState_of_none (hread.symm ▸ hnone)⟩
  · exact .inr ⟨hrefused, retry, updateRateState_of_some (hread.symm ▸ hsome), hvalue⟩

/-- The answer to a call in this state, where the last grant was at `last`. -/
structure ExactAdvice (state : Option CString) (last : UInt64) (call : RateCall) : Prop where
  refused_iff : (∃ retry, (updateRateState state call).2 = .limited retry) ↔
    call.nowNs.toNat - last.toNat < call.intervalMs.toNat * 1000000
  kept : ∀ retry, (updateRateState state call).2 = .limited retry →
    some (updateRateState state call).1 = state
  pos : ∀ retry, (updateRateState state call).2 = .limited retry → 1 ≤ retry.toNat
  granted_after : ∀ retry, (updateRateState state call).2 = .limited retry → ∀ waiting later,
    NoGrant state (call :: waiting) → later.intervalMs = call.intervalMs →
      call.nowNs.toNat + retry.toNat * 1000000 ≤ later.nowNs.toNat →
        (updateRateState (fileAfter state (call :: waiting)) later).2 = .granted
  refused_before : ∀ retry, (updateRateState state call).2 = .limited retry → ∀ waiting later,
    NoGrant state (call :: waiting) → later.intervalMs = call.intervalMs →
      later.nowNs.toNat = call.nowNs.toNat + (retry.toNat - 1) * 1000000 →
        ∃ again, (updateRateState (fileAfter state (call :: waiting)) later).2 = .limited again

theorem granted_of_allows (hle : last ≤ call.nowNs)
    (hallows : Limiter.Allows call.period (some last.toNat) call.nowNs.toNat) :
    (updateRateState (some (decimal last)) call).2 = .granted := by
  obtain ⟨-, hgranted⟩ | ⟨hrefused, -⟩ := updateRateState_decimal hle
  · rw [hgranted]
  · exact absurd hallows hrefused

theorem limited_of_not_allows (hle : last ≤ call.nowNs)
    (hrefused : ¬Limiter.Allows call.period (some last.toNat) call.nowNs.toNat) :
    ∃ retry, (updateRateState (some (decimal last)) call).2 = .limited retry := by
  obtain ⟨hallows, -⟩ | ⟨-, retry, hlimited, -⟩ := updateRateState_decimal hle
  · exact absurd hallows hrefused
  · exact ⟨retry, by rw [hlimited]⟩

theorem period_congr {later : RateCall} (h : later.intervalMs = call.intervalMs) :
    later.period = call.period := by
  rw [RateCall.period, h]
  rfl

theorem exactAdvice_decimal (hle : last ≤ call.nowNs) :
    ExactAdvice (some (decimal last)) last call := by
  have hnow := UInt64.le_iff_toNat_le.mp hle
  have hperiod : call.intervalMs.toNat * 1000000 = call.period := rfl
  obtain ⟨hallows, heq⟩ | ⟨hrefused, retry, heq, hvalue⟩ := updateRateState_decimal hle
  · have hnever : ∀ retry, (updateRateState (some (decimal last)) call).2 ≠ .limited retry := by
      rw [heq]
      exact fun _ h => nomatch h
    rw [Limiter.allows_some] at hallows
    refine ⟨iff_of_false (fun ⟨retry, h⟩ => hnever retry h) (by omega), ?_, ?_, ?_, ?_⟩
    · exact fun retry h => absurd h (hnever retry)
    · exact fun retry h => absurd h (hnever retry)
    · exact fun retry h => absurd h (hnever retry)
    · exact fun retry h => absurd h (hnever retry)
  · have hsame : ∀ other, (updateRateState (some (decimal last)) call).2 = .limited other →
        other.toNat = Limiter.retry 1000000 call.period last.toNat call.nowNs.toNat := by
      rw [heq]
      rintro other ⟨⟩
      exact hvalue
    refine ⟨iff_of_true (limited_of_not_allows hle hrefused) ?_, fun _ _ => by rw [heq], ?_, ?_, ?_⟩
    · rw [Limiter.allows_some] at hrefused
      omega
    · intro other hother
      rw [hsame other hother]
      exact Limiter.one_le_retry (by decide) hnow hrefused
    · intro other hother waiting later hnone hinterval hwait
      rw [hsame other hother] at hwait
      rw [fileAfter_of_noGrant hnone]
      refine granted_of_allows (UInt64.le_iff_toNat_le.mpr (by omega)) ?_
      rw [period_congr hinterval]
      exact Limiter.allows_of_retry_le (by decide) hnow hrefused hwait
    · intro other hother waiting later hnone hinterval hwait
      rw [hsame other hother] at hwait
      rw [fileAfter_of_noGrant hnone]
      refine limited_of_not_allows (UInt64.le_iff_toNat_le.mpr (by omega)) ?_
      rw [period_congr hinterval]
      exact Limiter.not_allows_of_eq_retry (by decide) hnow hrefused hwait

/-- After a grant, and however many calls were refused since, the file is read as the time of the
grant, and a call is told exactly how long to wait. No step of any call wraps. -/
theorem rateState_exact {file : Option CString} {before between : List RateCall} {grant : RateCall}
    (hgranted : (updateRateState (fileAfter file before) grant).2 = .granted)
    (hbetween : NoGrant (fileAfter file (before ++ [grant])) between) :
    parseUnsigned (previousText (fileAfter file (before ++ grant :: between))) = some grant.nowNs ∧
      (∀ call : RateCall, grant.nowNs ≤ call.nowNs →
        ExactAdvice (fileAfter file (before ++ grant :: between)) grant.nowNs call) ∧
      ∀ (call : RateCall) (text : CString),
        checkedRetryMs call.intervalMs call.nowNs text
          = some ((retryMs call.intervalMs call.nowNs text).map fun retry => (retry.toNat : Int)) := by
  rw [fileAfter_grant hgranted hbetween]
  refine ⟨?_, fun call hle => exactAdvice_decimal hle, checkedRetryMs_eq⟩
  rw [previousText_decimal, parseUnsigned_decimal]

/-- The default interval, at a time in nanoseconds. -/
def defaultCall (nowNs : UInt64) : RateCall where
  intervalMs := 500
  nowNs := nowNs
  intervalMs_le := by decide

/-- A first call. -/
theorem rateState_exact_first :
    parseUnsigned (previousText (fileAfter none [defaultCall 7])) = some 7 ∧
      (∀ call : RateCall, 7 ≤ call.nowNs → ExactAdvice (fileAfter none [defaultCall 7]) 7 call) ∧
      ∀ (call : RateCall) (text : CString),
        checkedRetryMs call.intervalMs call.nowNs text
          = some ((retryMs call.intervalMs call.nowNs text).map fun retry => (retry.toNat : Int)) :=
  @rateState_exact none [] [] (defaultCall 7) (by decide) List.not_mem_nil

end Advice

namespace ControlSystem

variable {ι : Type*} [DecidableEq ι] {config : ControlConfig} {s : ControlSystem ι} {p : ι}

section Steps

variable {intervalMs nowNs : UInt64}

-- its equations are derived here, once for the section
attribute [local simp] next

theorem next_opened (h : s.point p = .opening intervalMs nowNs) :
    ∃ t, s.next config p (.opened true) = some t ∧ t.point p = .locking intervalMs nowNs ∧
      t.file = some (s.file.getD []) ∧ t.holder = s.holder := by
  simp only [next, h, if_true]
  exact ⟨_, rfl, Function.update_self .., rfl, rfl⟩

theorem next_locked (h : s.point p = .locking intervalMs nowNs) (hfree : s.holder = none) :
    ∃ t, s.next config p (.locked true) = some t ∧ t.point p = .reading intervalMs nowNs ∧
      t.file = s.file := by
  simp only [next, h, if_true, hfree]
  exact ⟨_, rfl, Function.update_self .., rfl⟩

theorem next_contents_of_some {retry : UInt64} (h : s.point p = .reading intervalMs nowNs)
    (hretry : retryMs intervalMs nowNs (previousText s.file) = some retry) :
    ∃ t, s.next config p (.contents true) = some t ∧ t.point p = .unlocking false ∧
      t.file = s.file := by
  simp only [next, h, if_true, hretry]
  exact ⟨_, rfl, Function.update_self .., rfl⟩

theorem next_contents_of_none (h : s.point p = .reading intervalMs nowNs)
    (hretry : retryMs intervalMs nowNs (previousText s.file) = none) :
    ∃ t, s.next config p (.contents true) = some t ∧ t.point p = .storing nowNs := by
  simp only [next, h, if_true, hretry]
  exact ⟨_, rfl, Function.update_self ..⟩

theorem next_stored (h : s.point p = .storing nowNs) :
    ∃ t, s.next config p (.stored (.written (some (decimal nowNs).length))) = some t ∧
      t.point p = .unlocking true ∧ t.file = some (decimal nowNs) := by
  have hshort := length_decimal_lt nowNs
  have hlength : ¬pidBuffer ≤ (decimal nowNs).length := by omega
  simp only [next, h, if_neg hlength, if_true, StoreOutcome.contents, List.take_length]
  exact ⟨_, rfl, Function.update_self .., rfl⟩

theorem next_unlocked {granted : Bool} (h : s.point p = .unlocking granted) :
    ∃ t, s.next config p .unlocked = some t ∧
      t.point p = (if granted then .signalling else .exited 1) ∧ t.file = s.file ∧
      t.holder = none := by
  simp only [next, h]
  exact ⟨_, rfl, Function.update_self .., rfl, rfl⟩

end Steps

/-- The steps of an invocation whose calls to the system all succeed. -/
def aloneSteps (p : ι) (call : RateCall) : RateResult → List (ι × ControlAnswer)
  | .granted => [(p, .opened true), (p, .locked true), (p, .contents true),
      (p, .stored (.written (some (decimal call.nowNs).length))), (p, .unlocked)]
  | .limited _ | .writeFailed =>
      [(p, .opened true), (p, .locked true), (p, .contents true), (p, .unlocked)]

/-- An invocation that takes its steps while no other does goes through `updateRateState`. -/
theorem execute_aloneSteps {call : RateCall}
    (hpoint : s.point p = .opening call.intervalMs call.nowNs) (hfree : s.holder = none) :
    ∃ t, execute (fun s event => s.next config event.1 event.2) s
        (aloneSteps p call (updateRateState s.file call).2) = some t ∧
      t.file = some (updateRateState s.file call).1 ∧ t.holder = none ∧
      t.point p = if (updateRateState s.file call).2 = .granted then .signalling else .exited 1 := by
  have hread : previousText (some (s.file.getD [])) = previousText s.file := rfl
  obtain ⟨s₁, hstep₁, hpoint₁, hfile₁, hholder₁⟩ := next_opened hpoint
  obtain ⟨s₂, hstep₂, hpoint₂, hfile₂⟩ :=
    next_locked hpoint₁ (hholder₁.trans hfree)
  rw [hfile₁] at hfile₂
  cases hretry : retryMs call.intervalMs call.nowNs (previousText s.file) with
  | some retry =>
    rw [← hread, ← hfile₂] at hretry
    obtain ⟨s₃, hstep₃, hpoint₃, hfile₃⟩ := next_contents_of_some hpoint₂ hretry
    obtain ⟨t, hlast, hpoint, hfile, hholder⟩ := next_unlocked hpoint₃
    rw [hfile₂, hread] at hretry
    rw [updateRateState_of_some hretry]
    exact ⟨t, execute_cons hstep₁ (execute_cons hstep₂ (execute_cons hstep₃ (execute_cons hlast rfl))),
      hfile.trans (hfile₃.trans hfile₂), hholder, hpoint⟩
  | none =>
    rw [← hread, ← hfile₂] at hretry
    obtain ⟨s₃, hstep₃, hpoint₃⟩ := next_contents_of_none hpoint₂ hretry
    obtain ⟨s₄, hstep₄, hpoint₄, hfile₄⟩ := next_stored hpoint₃
    obtain ⟨t, hlast, hpoint, hfile, hholder⟩ := next_unlocked hpoint₄
    rw [hfile₂, hread] at hretry
    rw [updateRateState_of_none hretry]
    exact ⟨t, execute_cons hstep₁ (execute_cons hstep₂ (execute_cons hstep₃ (execute_cons hstep₄
      (execute_cons hlast rfl)))), hfile.trans hfile₄, hholder, hpoint⟩

end ControlSystem

end VitaLinuxPort
