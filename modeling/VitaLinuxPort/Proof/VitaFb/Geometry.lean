import VitaLinuxPort.Toolkit.VitaFb

/-!
# The geometry that `vita-fb` goes by

The numbers of the kernel are printed in decimal, without zeros in front, so the shell reads them back.
When `load_metadata` accepts what it has read, `FRAME_BYTES` is the size of the kernel's picture.
-/

namespace VitaLinuxPort

namespace VitaFb

/-! ### Numbers -/

theorem shellNumber_toDigits {n : Nat} (h : n < 2 ^ 63) :
    shellNumber (Nat.toDigits 10 n) = some (n : Int) := by
  have hword : ((min n (2 ^ 64 - 1) : Nat) : Int).bmod (2 ^ 64) = n := by
    rw [Nat.min_eq_left (by omega)]
    exact Int.bmod_eq_of_le (by omega) (by omega)
  unfold shellNumber
  simp only
  split
  · next rest hzero =>
      rw [Text.eq_zero_of_toDigits hzero]
      decide
  · rw [Nat.ofDigitChars_ten_toDigits, hword]

theorem shellProduct_toDigits {a b : Nat} (ha : a < 2 ^ 31) (hb : b < 2 ^ 31) :
    shellProduct (Nat.toDigits 10 a) (Nat.toDigits 10 b) = some ((a * b : Nat) : Int) := by
  have hproduct : a * b < 2 ^ 31 * 2 ^ 31 := Nat.mul_lt_mul'' ha hb
  have hbmod : ((a : Int) * b).bmod (2 ^ 64) = ((a * b : Nat) : Int) := by
    rw [← Int.natCast_mul]
    exact Int.bmod_eq_of_le (by omega) (by omega)
  rw [shellProduct, shellNumber_toDigits (by omega), shellNumber_toDigits (by omega), ← hbmod]
  rfl

/-! ### The metadata -/

/-- What `load_metadata` has checked. -/
structure Metadata.Checked (m : Metadata) : Prop where
  pos : 0 < m.frameBytes
  blocks : 4096 * m.blocks = m.frameBytes
  bind : m.bind = ['0'] ∨ m.bind = ['1']

theorem checkMetadata_ok {geometry bits stride bind : CString} {m : Metadata}
    (h : checkMetadata geometry bits stride bind = .ok m) :
    m.Checked ∧ m.bind = bind ∧ ',' ∈ geometry ∧ validNumber stride = true ∧
      shellProduct stride (afterFirst ',' geometry) = some (m.frameBytes : Int) := by
  unfold checkMetadata at h
  simp only at h
  split_ifs at h with hcomma _ _ _ hstride hbind
  split at h
  · cases h
  · next bytes hbytes =>
      split_ifs at h with hzero haligned
      cases h
      refine ⟨⟨?_, ?_, ?_⟩, rfl, by simpa using hcomma, by simpa using hstride, ?_⟩
      · simp only
        omega
      · simp only [Metadata.blocks]
        omega
      · simp only
        tauto
      · rw [hbytes, Int.toNat_of_nonneg (by omega)]

theorem afterFirst_toDigits (n : Nat) (rest : CString) :
    afterFirst ',' (Nat.toDigits 10 n ++ ',' :: rest) = rest := by
  have hdigits : ∀ c ∈ Nat.toDigits 10 n, c ≠ ',' := by
    intro c hc hcomma
    have hdigit := Nat.isDigit_of_mem_toDigits (by decide) (by decide) hc
    rw [hcomma] at hdigit
    exact absurd hdigit (by decide)
  rw [afterFirst, List.dropWhile_append_of_pos (by simpa using hdigits)]
  simp

/-- A measured length that is printed like the frame's is the frame's. -/
theorem countText_eq_iff {count : Option Nat} {m : Metadata} :
    countText count = m.bytesText ↔ count = some m.frameBytes := by
  cases count with
  | none =>
      simp [countText, Metadata.bytesText]
  | some n => simp [countText, Metadata.bytesText, Text.toDigits_eq_iff]

/-- The metadata are those of the kernel's picture and console. -/
structure Metadata.Describes (m : Metadata) (s : World) : Prop extends m.Checked where
  size : m.frameBytes = s.panel.frameBytes
  bound : m.bind = s.bindText

theorem describes_of_check {geometry bits stride bind : CString} {m : Metadata} {s : World}
    (h : checkMetadata geometry bits stride bind = .ok m)
    (hgeometry : geometry = "UNKNOWN".toList ∨
      geometry = Nat.toDigits 10 s.panel.width ++ ',' :: Nat.toDigits 10 s.panel.height)
    (hstride : stride = "UNKNOWN".toList ∨ stride = Nat.toDigits 10 s.panel.stride)
    (hbind : bind = "UNKNOWN".toList ∨ bind = s.bindText) : m.Describes s := by
  obtain ⟨hchecked, rfl, hcomma, hvalid, hproduct⟩ := checkMetadata_ok h
  have hgeometry := hgeometry.resolve_left fun hunknown => by
    rw [hunknown] at hcomma
    exact absurd hcomma (by decide)
  have hstride := hstride.resolve_left fun hunknown => by
    rw [hunknown] at hvalid
    exact absurd hvalid (by decide)
  have hbind := hbind.resolve_left fun hunknown => by
    have hstate := hchecked.bind
    rw [hunknown] at hstate
    exact absurd hstate (by decide)
  rw [hgeometry, hstride, afterFirst_toDigits,
    shellProduct_toDigits s.panel.stride_lt s.panel.height_lt] at hproduct
  have hsize : s.panel.stride * s.panel.height = m.frameBytes :=
    Int.ofNat_inj.mp (Option.some.inj hproduct)
  exact ⟨hchecked, hsize.symm, hbind⟩

end VitaFb

end VitaLinuxPort
