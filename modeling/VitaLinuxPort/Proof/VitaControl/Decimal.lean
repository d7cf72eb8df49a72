import Mathlib.Data.List.TakeWhile
import VitaLinuxPort.Toolkit.InputWatch

/-!
# Numbers in decimal

What `snprintf` writes of a number is its digits: no blank and no sign stands before them and nothing
after them, so `strtoul` and `strtoull` read all of the text and give the number back.
-/

namespace VitaLinuxPort

theorem toNat_bounds_of_isDigit {c : Char} (h : c.isDigit = true) : 48 ≤ c.toNat ∧ c.toNat ≤ 57 := by
  simp only [Char.isDigit, ge_iff_le, Bool.and_eq_true, decide_eq_true_eq] at h
  exact ⟨h.1, h.2⟩

theorem isSpace_of_isDigit {c : Char} (h : c.isDigit = true) : isSpace c = false := by
  have hbounds := toNat_bounds_of_isDigit h
  have hblank : c ≠ ' ' := by
    rintro rfl
    exact absurd hbounds.1 (by decide)
  simp only [isSpace, hblank, false_or, decide_eq_false_iff_not]
  omega

theorem ne_sign_of_isDigit {c : Char} (h : c.isDigit = true) : c ≠ '-' ∧ c ≠ '+' ∧ c ≠ '\x00' := by
  refine ⟨?_, ?_, ?_⟩ <;> rintro rfl <;> exact absurd h (by decide)

theorem isDigit_of_mem_toDigits {n : Nat} {c : Char} (h : c ∈ Nat.toDigits 10 n) :
    c.isDigit = true :=
  Nat.isDigit_of_mem_toDigits (by decide) (by decide) h

/-- The digits of a number, as a scanner of numbers meets them. -/
structure DigitText (text : CString) (n : Nat) : Prop where
  ne_nil : text ≠ []
  dropWhile_isSpace : text.dropWhile isSpace = text
  not_sign : ¬(text.head? = some '-' ∨ text.head? = some '+')
  takeWhile_isDigit : text.takeWhile Char.isDigit = text
  dropWhile_isDigit : text.dropWhile Char.isDigit = []
  value_eq : Nat.ofDigitChars 10 text 0 = n

theorem digitText_toDigits (n : Nat) : DigitText (Nat.toDigits 10 n) n := by
  obtain ⟨c, rest, htext⟩ := List.exists_cons_of_ne_nil (Nat.toDigits_ne_nil (n := n) (b := 10))
  have hdigit : c.isDigit = true := isDigit_of_mem_toDigits (n := n) (by simp [htext])
  obtain ⟨hminus, hplus, -⟩ := ne_sign_of_isDigit hdigit
  refine ⟨Nat.toDigits_ne_nil, ?_, ?_, ?_, ?_, Nat.ofDigitChars_ten_toDigits⟩
  · rw [htext, List.dropWhile_cons_of_neg (by simp [isSpace_of_isDigit hdigit])]
  · simp [htext, hminus, hplus]
  · exact List.takeWhile_eq_self_iff.mpr fun _ => isDigit_of_mem_toDigits
  · exact List.dropWhile_eq_nil_iff.mpr fun _ => isDigit_of_mem_toDigits

theorem not_minus {text : CString} {n : Nat} (h : DigitText text n) : text.head? ≠ some '-' :=
  fun hminus => h.not_sign (.inl hminus)

theorem strtoull_toDigits {n : Nat} (h : n < 2 ^ 64) :
    strtoull (Nat.toDigits 10 n) = ⟨.ofNat n, false, some []⟩ := by
  have htext := digitText_toDigits n
  simp only [strtoull, htext.dropWhile_isSpace, if_neg htext.not_sign, htext.takeWhile_isDigit,
    htext.dropWhile_isDigit, htext.value_eq, if_neg htext.ne_nil, if_neg (Nat.not_le.mpr h),
    if_neg (not_minus htext)]

theorem strtoul_toDigits [Target] {n : Nat} (h : n < 2 ^ Target.sizeBits) :
    strtoul (Nat.toDigits 10 n) = ⟨n, false, some []⟩ := by
  have htext := digitText_toDigits n
  simp only [strtoul, htext.dropWhile_isSpace, if_neg htext.not_sign, htext.takeWhile_isDigit,
    htext.dropWhile_isDigit, htext.value_eq, if_neg htext.ne_nil, if_neg (Nat.not_le.mpr h),
    if_neg (not_minus htext)]

/-- Every duration of the type is accepted. -/
theorem parsePositive_toDigits [Target] (durationMs : UInt32) :
    parsePositive (Nat.toDigits 10 durationMs.toNat) = some durationMs := by
  have hlt := durationMs.toNat_lt
  have hsize := Nat.pow_le_pow_right (by decide : 0 < 2) Target.sizeBits_ge
  rw [parsePositive, strtoul_toDigits (by omega), if_neg (digitText_toDigits _).ne_nil]
  simp only [Bool.false_eq_true, ne_eq, not_true_eq_false, false_or]
  rw [if_neg (by omega), UInt32.ofNat_toNat]

end VitaLinuxPort
