import VitaLinuxPort.Lib.Limiter
import VitaLinuxPort.Proof.VitaControl.Decimal
import Mathlib.Data.List.TakeWhile
import Mathlib.Data.UInt

/-!
# The state file as a memory

A timestamp is written in decimal and read back with `strtoull`. What was written is what is read,
for every 64-bit value; and of a text that holds a timestamp no later than the reading, the limiter
refuses exactly the readings less than an interval later.
-/

namespace VitaLinuxPort

theorem isDigit_of_mem_decimal {n : UInt64} {c : Char} (h : c ∈ decimal n) : c.isDigit = true :=
  Nat.isDigit_of_mem_toDigits (by decide) (by decide) h

theorem decimal_ne_nil (n : UInt64) : decimal n ≠ [] := Nat.toDigits_ne_nil

theorem length_decimal_lt (n : UInt64) : (decimal n).length < pidBuffer - 1 := by
  have hlength : (decimal n).length ≤ 20 := by
    refine (Nat.length_toDigits_le_iff (by decide) (by decide)).mpr ?_
    have hn : n.toNat < 2 ^ 64 := n.toNat_lt
    omega
  exact Nat.lt_of_le_of_lt hlength (by decide)

theorem strtoull_decimal (n : UInt64) : strtoull (decimal n) = ⟨n, false, some []⟩ := by
  rw [decimal, strtoull_toDigits n.toNat_lt, UInt64.ofNat_toNat]

theorem parseUnsigned_decimal (n : UInt64) : parseUnsigned (decimal n) = some n := by
  simp [parseUnsigned, decimal_ne_nil, strtoull_decimal]

theorem previousText_decimal (n : UInt64) : previousText (some (decimal n)) = decimal n := by
  have hwhole : (decimal n).take (pidBuffer - 1) = decimal n :=
    List.take_of_length_le (length_decimal_lt n).le
  rw [previousText, Option.getD_some, hwhole, List.takeWhile_eq_self_iff]
  intro c hc
  simpa using (ne_sign_of_isDigit (isDigit_of_mem_decimal hc)).2.2

theorem loadInterval_le {override environment : Option CString} {intervalMs : UInt64}
    (h : loadInterval override environment = some intervalMs) : intervalMs ≤ maxIntervalMs := by
  have hfilter := (Option.filter_eq_some_iff.mp h).2
  simpa using hfilter

theorem toNat_mul_intervalMs {intervalMs : UInt64} (h : intervalMs ≤ maxIntervalMs) :
    (intervalMs * 1000000).toNat = intervalMs.toNat * 1000000 := by
  have hle : intervalMs.toNat ≤ 3600000 := UInt64.le_iff_toNat_le.mp h
  rw [UInt64.toNat_mul, show (1000000 : UInt64).toNat = 1000000 from rfl, Nat.mod_eq_of_lt (by omega)]

/-- A reading that is not before the recorded timestamp passes when the limiter allows it. -/
theorem allows_of_retryMs_eq_none {intervalMs nowNs previousNs : UInt64}
    (hinterval : intervalMs ≤ maxIntervalMs) (hle : previousNs ≤ nowNs)
    (h : retryMs intervalMs nowNs (decimal previousNs) = none) :
    Limiter.Allows (intervalMs.toNat * 1000000) (some previousNs.toNat) nowNs.toNat := by
  have hlate : ¬ nowNs - previousNs < intervalMs * 1000000 := by
    intro hearly
    simp [retryMs, parseUnsigned_decimal, hle, hearly] at h
  have hsub : (nowNs - previousNs).toNat = nowNs.toNat - previousNs.toNat :=
    UInt64.toNat_sub_of_le _ _ hle
  rw [UInt64.lt_iff_toNat_lt, hsub, toNat_mul_intervalMs hinterval] at hlate
  rw [UInt64.le_iff_toNat_le] at hle
  rw [Limiter.allows_some]
  omega

end VitaLinuxPort
