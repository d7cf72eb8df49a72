import VitaLinuxPort.Toolkit.Bench

/-!
# Which failures a run notices

A worker that could not allocate leaves the checksum with every bit set. The checksums of the others
stay far below it, so no run without a failure is reported as one. But the checksums are combined by
exclusive or before they are looked at, and there two failures cancel and one is hidden by any
checksum other than zero.
-/

namespace VitaLinuxPort

namespace BenchWorker

variable {work : BenchWork} {rounds : UInt32} {bytes : Nat}

/-- A bound on the checksums of the workers that do not fail. -/
def checksumBits : Nat := 41

theorem xor_byte_le (checksum : UInt64) (byte : UInt8) :
    (checksum ^^^ byte.toUInt64).toNat ≤ checksum.toNat + 255 := by
  have hbyte : byte.toNat < 2 ^ 8 := byte.toNat_lt
  have hhigh : (checksum.toNat ^^^ byte.toNat) / 2 ^ 8 = checksum.toNat / 2 ^ 8 := by
    rw [Nat.xor_div_two_pow, Nat.div_eq_of_lt hbyte, Nat.xor_zero]
  rw [UInt64.toNat_xor, UInt8.toNat_toUInt64]
  omega

theorem copyRound_le (source : List UInt8) (state : UInt64 × List UInt8) (round : Nat) :
    (copyRound work bytes source state round).1.toNat ≤ state.1.toNat + 510 := by
  rw [copyRound]
  generalize (if work = .memcpy then source
    else .replicate bytes (UInt32.ofNat round &&& 0xff).toUInt8) = destination
  have hxor := xor_byte_le state.1
    (destination.getD ((UInt32.ofNat round * 4099).toNat % bytes) 0)
  have hlast := (destination.getD (bytes - 1) 0).toNat_lt
  rw [UInt64.toNat_add, UInt8.toNat_toUInt64]
  exact Nat.le_trans (Nat.mod_le _ _) (by omega)

theorem copyRounds_le (source : List UInt8) (rounds : Nat) (initial : List UInt8) :
    ((List.range rounds).foldl (copyRound work bytes source) (0, initial)).1.toNat
      ≤ 510 * rounds := by
  induction rounds with
  | zero => exact Nat.le_refl _
  | succ rounds ih =>
    rw [List.range_succ, List.foldl_append, List.foldl_cons, List.foldl_nil]
    have hround := @copyRound_le work bytes source
      ((List.range rounds).foldl (copyRound work bytes source) (0, initial)) rounds
    omega

theorem copyChecksum_lt (worker : BenchWorker) :
    (worker.copyChecksum work rounds bytes).toNat < 2 ^ checksumBits := by
  have hrounds := @copyRounds_le work bytes (.replicate bytes (worker.args &&& 0xff).toUInt8)
    rounds.toNat (.replicate bytes 0)
  have hword := rounds.toNat_lt
  rw [copyChecksum, checksumBits]
  exact Nat.lt_of_le_of_lt (xor_byte_le _ _) (by omega)

theorem workerMain_of_fails {worker : BenchWorker} (hfails : worker.fails work = true) :
    worker.workerMain work rounds bytes = .ofNat (2 ^ 64 - 1) := by
  have hwork : work ≠ .compute := by
    rintro rfl
    simp [fails] at hfails
  rw [workerMain, if_neg hwork, if_pos hfails]

theorem workerMain_lt {worker : BenchWorker} (hsucceeds : ¬worker.fails work = true) :
    (worker.workerMain work rounds bytes).toNat < 2 ^ checksumBits := by
  rw [workerMain]
  split
  · rw [computeChecksum, UInt32.toNat_toUInt64]
    exact Nat.lt_trans (UInt32.toNat_lt _) (by decide)
  · exact worker.copyChecksum_lt

end BenchWorker

section Runs

variable (work : BenchWork) (rounds : UInt32) (bytes : Nat)

/-- The checksums of the workers, combined. -/
def combined (workers : List BenchWorker) : UInt64 :=
  (workers.map (·.workerMain work rounds bytes)).foldr (· ^^^ ·) 0

/-- The workers that do not fail. -/
def succeeding (workers : List BenchWorker) : List BenchWorker :=
  workers.filter fun worker => !worker.fails work

def failures (workers : List BenchWorker) : Nat := workers.countP (·.fails work)

variable {work rounds bytes}

@[simp] theorem combined_cons (worker : BenchWorker) (workers : List BenchWorker) :
    combined work rounds bytes (worker :: workers)
      = worker.workerMain work rounds bytes ^^^ combined work rounds bytes workers := rfl

theorem foldl_workerMain (workers : List BenchWorker) (checksum : UInt64) :
    workers.foldl (fun checksum worker => checksum ^^^ worker.workerMain work rounds bytes) checksum
      = checksum ^^^ combined work rounds bytes workers := by
  induction workers generalizing checksum with
  | nil => exact UInt64.xor_zero.symm
  | cons worker workers ih => rw [List.foldl_cons, ih, combined_cons, UInt64.xor_assoc]

theorem runMemory_map_some (workers : List BenchWorker) :
    (runMemory true work (workers.map some) rounds bytes).1
      = if combined work rounds bytes workers = .ofNat (2 ^ 64 - 1) then -1 else 0 := by
  have hcreated : (workers.map some).any Option.isNone = false := by simp
  rw [runMemory, hcreated, List.filterMap_map]
  simp [foldl_workerMain]

theorem runMemory_eq_neg_one_iff (workers : List BenchWorker) :
    (runMemory true work (workers.map some) rounds bytes).1 = -1
      ↔ combined work rounds bytes workers = .ofNat (2 ^ 64 - 1) := by
  rw [runMemory_map_some]
  split <;> simp_all

theorem failures_cons (worker : BenchWorker) (workers : List BenchWorker) :
    failures work (worker :: workers)
      = failures work workers + if worker.fails work then 1 else 0 :=
  List.countP_cons

theorem succeeding_cons (worker : BenchWorker) (workers : List BenchWorker) :
    succeeding work (worker :: workers)
      = if worker.fails work then succeeding work workers
        else worker :: succeeding work workers := by
  rw [succeeding, List.filter_cons]
  cases worker.fails work <;> rfl

/-- Each failure turns every bit over. -/
theorem combined_eq (workers : List BenchWorker) :
    combined work rounds bytes workers
      = (if failures work workers % 2 = 1 then .ofNat (2 ^ 64 - 1) else 0)
          ^^^ combined work rounds bytes (succeeding work workers) := by
  induction workers with
  | nil => exact UInt64.xor_self.symm
  | cons worker workers ih =>
    rw [combined_cons, ih, failures_cons, succeeding_cons, ← UInt64.xor_assoc]
    by_cases hfails : worker.fails work
    · rw [BenchWorker.workerMain_of_fails hfails, if_pos hfails, if_pos hfails]
      congr 1
      by_cases hodd : failures work workers % 2 = 1
      · rw [if_pos hodd, if_neg (by omega), UInt64.xor_self]
      · rw [if_neg hodd, if_pos (by omega), UInt64.xor_zero]
    · rw [if_neg hfails, if_neg hfails, Nat.add_zero, combined_cons, ← UInt64.xor_assoc]
      congr 1
      exact UInt64.xor_comm _ _

theorem combined_succeeding_lt (workers : List BenchWorker) :
    (combined work rounds bytes (succeeding work workers)).toNat < 2 ^ BenchWorker.checksumBits := by
  have hsucceeds : ∀ worker ∈ succeeding work workers, ¬worker.fails work = true := by
    intro worker hworker
    simpa using (List.mem_filter.mp hworker).2
  generalize succeeding work workers = others at hsucceeds
  induction others with
  | nil => exact Nat.two_pow_pos _
  | cons worker others ih =>
    obtain ⟨hworker, hworkers⟩ := List.forall_mem_cons.mp hsucceeds
    rw [combined_cons, UInt64.toNat_xor]
    exact Nat.xor_lt_two_pow (BenchWorker.workerMain_lt hworker) (ih hworkers)

/-- A run that failed is one in which the failures are odd in number and the other checksums
cancel. -/
theorem combined_eq_max_iff (workers : List BenchWorker) :
    combined work rounds bytes workers = .ofNat (2 ^ 64 - 1) ↔
      failures work workers % 2 = 1 ∧ combined work rounds bytes (succeeding work workers) = 0 := by
  have hlt := @combined_succeeding_lt work rounds bytes workers
  rw [combined_eq]
  by_cases hodd : failures work workers % 2 = 1
  · rw [if_pos hodd, and_iff_right hodd]
    exact (UInt64.xor_right_inj (b := 0) _).trans Iff.rfl
  · rw [if_neg hodd, UInt64.zero_xor]
    refine iff_of_false ?_ (fun h => hodd h.1)
    intro hmax
    rw [hmax] at hlt
    exact absurd hlt (by decide)

theorem failures_pos_iff (workers : List BenchWorker) :
    0 < failures work workers ↔ ∃ worker ∈ workers, worker.fails work = true :=
  List.countP_pos_iff

/-- `run_memory` tells whether a worker failed exactly where none did, or where the failures are odd
in number and the checksums of the other workers cancel. -/
theorem failure_detected_iff (workers : List BenchWorker) :
    ((runMemory true work (workers.map some) rounds bytes).1 = -1
        ↔ ∃ worker ∈ workers, worker.fails work = true) ↔
      (∀ worker ∈ workers, ¬worker.fails work = true) ∨
        failures work workers % 2 = 1 ∧ combined work rounds bytes (succeeding work workers) = 0 := by
  rw [runMemory_eq_neg_one_iff, combined_eq_max_iff, ← failures_pos_iff]
  have hnone : (∀ worker ∈ workers, ¬worker.fails work = true) ↔ failures work workers = 0 := by
    rw [failures, List.countP_eq_zero]
  rw [hnone]
  constructor
  · intro hiff
    obtain hzero | hpos := Nat.eq_zero_or_pos (failures work workers)
    · exact .inl hzero
    · exact .inr (hiff.mpr hpos)
  · rintro (hzero | hcancel)
    · simp [hzero]
    · exact iff_of_true hcancel (by omega)

/-- Two workers without memory pass for a run that went well. -/
theorem failure_detected_iff_two_failures :
    ¬∀ (work : BenchWork) (workers : List BenchWorker) (rounds : UInt32) (bytes : Nat),
      (runMemory true work (workers.map some) rounds bytes).1 = -1
        ↔ ∃ worker ∈ workers, worker.fails work = true := by
  intro h
  have hfailed := (h .memcpy [⟨0, false, true⟩, ⟨24, false, false⟩] 8 8388608).mpr (by decide)
  exact absurd hfailed (by decide)

end Runs

end VitaLinuxPort
