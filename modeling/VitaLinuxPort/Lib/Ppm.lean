import Mathlib.Data.List.Basic
import VitaLinuxPort.Lib.Python

/-!
# PPM files

The binary format with one byte a channel: the magic number, the width, the height and 255 in decimal
digits with gaps of blanks and comments before each, one blank, and the raster. What follows the
raster does not belong to the picture.
-/

namespace VitaLinuxPort

namespace Ppm

def isBlank (c : UInt8) : Bool := [32, 9, 13, 10].contains c

def isNewline (c : UInt8) : Bool := [13, 10].contains c

/-- Blanks, and comments from `#` to the end of the line. -/
inductive Gap : List UInt8 → Prop where
  | nil : Gap []
  | blank {c : UInt8} {rest : List UInt8} (h : isBlank c = true) (hrest : Gap rest) : Gap (c :: rest)
  | comment {text : List UInt8} {c : UInt8} {rest : List UInt8}
      (htext : ∀ c ∈ text, isNewline c = false) (h : isNewline c = true) (hrest : Gap rest) :
      Gap (35 :: (text ++ c :: rest))

/-- Decimal digits and their value. -/
structure Number (digits : List UInt8) (value : Nat) : Prop where
  nonempty : digits ≠ []
  isDigit : ∀ c ∈ digits, Python.isDigit c = true
  value : digits.foldl (fun value c => value * 10 + (c.toNat - 48)) 0 = value

inductive IsPpm : (data : List UInt8) → (width height : Nat) → (raster : List UInt8) → Prop where
  | mk {first second third w h m raster rest : List UInt8} {before₂ before₃ last : UInt8}
      {width height : Nat} (hfirst : Gap first) (hsome : first ≠ []) (hw : Number w width)
      (hbefore₂ : isBlank before₂ = true) (hsecond : Gap second) (hh : Number h height)
      (hbefore₃ : isBlank before₃ = true) (hthird : Gap third) (hm : Number m 255)
      (hlast : isBlank last = true) (hwidth : 0 < width) (hheight : 0 < height)
      (hraster : raster.length = width * height * 3) :
      IsPpm (0x50 :: 0x36 :: (first ++ w ++ before₂ :: (second ++ h ++ before₃ :: (third ++ m ++
        last :: (raster ++ rest))))) width height raster

theorem number_255 : Number [50, 53, 53] 255 := by
  refine ⟨List.cons_ne_nil 50 [53, 53], ?_, rfl⟩
  rw [List.forall_mem_cons, List.forall_mem_cons, List.forall_mem_cons]
  exact ⟨rfl, rfl, rfl, List.forall_mem_nil _⟩

/-- Numbers as they are printed. -/
theorem number_toDigits (n : Nat) :
    Number ((Nat.toDigits 10 n).map fun c => UInt8.ofNat c.toNat) n := by
  have hbyte : ∀ c ∈ Nat.toDigits 10 n, c.isDigit = true ∧ (UInt8.ofNat c.toNat).toNat = c.toNat := by
    intro c hc
    have hdigit := Nat.isDigit_of_mem_toDigits (by decide) (by decide) hc
    refine ⟨hdigit, ?_⟩
    simp only [Char.isDigit, ge_iff_le, Bool.and_eq_true, decide_eq_true_eq] at hdigit
    have hle : c.toNat ≤ 57 := hdigit.2
    rw [UInt8.toNat_ofNat', Nat.mod_eq_of_lt (by omega)]
  refine ⟨?_, ?_, ?_⟩
  · rw [ne_eq, List.map_eq_nil_iff]
    exact Nat.toDigits_ne_nil
  · intro d hd
    obtain ⟨c, hc, rfl⟩ := List.mem_map.mp hd
    obtain ⟨hdigit, hvalue⟩ := hbyte c hc
    simp only [Char.isDigit, ge_iff_le, Bool.and_eq_true, decide_eq_true_eq] at hdigit
    rw [Python.isDigit, Bool.and_eq_true, decide_eq_true_eq, decide_eq_true_eq, UInt8.le_iff_toNat_le,
      UInt8.le_iff_toNat_le, hvalue]
    exact hdigit
  · have hprinted := @Nat.ofDigitChars_ten_toDigits n
    rw [Nat.ofDigitChars_eq_foldl] at hprinted
    rw [List.foldl_map]
    refine Eq.trans (List.foldl_ext _ _ _ fun value c hc => ?_) hprinted
    rw [(hbyte c hc).2, Nat.mul_comm]
    rfl

end Ppm

end VitaLinuxPort
