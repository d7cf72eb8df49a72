import VitaLinuxPort.Cart.FlashCheck

/-!
# Reading PPM files

Every well-formed picture with at least one pixel is read, and has a luminance.
-/

namespace VitaLinuxPort

namespace FlashCheck

open Ppm Python

theorem skipGap_comment (text : List UInt8) {c : UInt8} (rest : List UInt8)
    (htext : ∀ c ∈ text, isNewline c = false) (hc : isNewline c = true) :
    skipGap true (text ++ c :: rest) = skipGap false rest := by
  induction text with
  | nil => rw [List.nil_append, skipGap, if_pos rfl, if_pos hc]
  | cons d text ih =>
    have hall := List.forall_mem_cons.mp htext
    rw [List.cons_append, skipGap, if_pos rfl, hall.1, if_neg Bool.false_ne_true, ih hall.2]

theorem skipGap_gap {gap : List UInt8} (hgap : Gap gap) (rest : List UInt8) :
    skipGap false (gap ++ rest) = skipGap false rest := by
  induction hgap with
  | nil => rfl
  | blank h _ ih => rw [List.cons_append, skipGap, if_neg Bool.false_ne_true, if_pos h, ih]
  | comment htext h _ ih =>
    rw [List.cons_append, skipGap, if_neg Bool.false_ne_true, if_neg (by decide), if_pos rfl,
      List.append_assoc, List.cons_append, skipGap_comment _ _ htext h, ih]

theorem isBlank_of_isDigit {c : UInt8} (h : isDigit c = true) : isBlank c = false := by
  cases hblank : isBlank c with
  | false => rfl
  | true =>
    simp only [isBlank, List.contains_eq_mem, decide_eq_true_eq, List.mem_cons, List.not_mem_nil,
      or_false] at hblank
    obtain rfl | rfl | rfl | rfl := hblank <;> exact absurd h (by decide)

theorem readToken_number {gap digits : List UInt8} {value : Nat} {c : UInt8} (rest : List UInt8)
    (hgap : Gap gap) (hnumber : Number digits value) (hc : isBlank c = true) :
    readToken (gap ++ digits ++ c :: rest) = (digits, c :: rest) := by
  have hall : ∀ d ∈ digits, (!isBlank d) = true := by
    intro d hd
    rw [isBlank_of_isDigit (hnumber.isDigit d hd)]
    rfl
  have hskip : skipGap false (digits ++ c :: rest) = digits ++ c :: rest := by
    cases digits with
    | nil => exact absurd rfl hnumber.nonempty
    | cons d digits =>
      have hd := hnumber.isDigit d List.mem_cons_self
      have hcomment : d ≠ 35 := by
        rintro rfl
        exact absurd hd (by decide)
      rw [List.cons_append, skipGap, if_neg Bool.false_ne_true, isBlank_of_isDigit hd,
        if_neg Bool.false_ne_true, if_neg hcomment]
  rw [readToken, List.append_assoc, skipGap_gap hgap, hskip, List.takeWhile_append_of_pos hall, List.dropWhile_append_of_pos hall,
    List.takeWhile_cons_of_neg (by simp [hc]), List.dropWhile_cons_of_neg (by simp [hc]),
    List.append_nil]

theorem dropWhile_isSpace {l : List UInt8} (h : ∀ d ∈ l, isSpace d = false) :
    l.dropWhile isSpace = l := by
  cases l with
  | nil => rfl
  | cons d l => rw [List.dropWhile_cons_of_neg (by rw [h d List.mem_cons_self]; decide)]

theorem intOfBytes_number {digits : List UInt8} {value : Nat} (hnumber : Number digits value) :
    intOfBytes digits = some (value : Int) := by
  have hspace : ∀ d ∈ digits, isSpace d = false := by
    intro d hd
    cases hspace : isSpace d with
    | false => rfl
    | true =>
      have hdigit := hnumber.isDigit d hd
      simp only [isSpace, List.contains_eq_mem, decide_eq_true_eq, List.mem_cons,
        List.not_mem_nil, or_false] at hspace
      obtain rfl | rfl | rfl | rfl | rfl | rfl := hspace <;> exact absurd hdigit (by decide)
  have hstrip : ((digits.dropWhile isSpace).reverse.dropWhile isSpace).reverse = digits := by
    rw [dropWhile_isSpace hspace, dropWhile_isSpace, List.reverse_reverse]
    exact fun d hd => hspace d (List.mem_reverse.mp hd)
  have hvalue : digitsValue 0 false digits = some value := by
    rw [digitsValue_eq hnumber.isDigit (.inr hnumber.nonempty), hnumber.value]
  rw [intOfBytes, hstrip]
  split
  · exact absurd (hnumber.isDigit 45 List.mem_cons_self) (by decide)
  · exact absurd (hnumber.isDigit 43 List.mem_cons_self) (by decide)
  · rw [hvalue]
    rfl

/-- A well-formed picture is read, whatever bytes its raster has. -/
theorem readPpm_of_isPpm {data raster : List UInt8} {width height : Nat}
    (h : IsPpm data width height raster) :
    readPpm data = some ((width : Int), (height : Int), raster) := by
  cases h with
  | @mk first second third w h m raster rest before₂ before₃ last _ _ hfirst hsome hw hbefore₂
      hsecond hh hbefore₃ hthird hm hlast hwidth hheight hraster =>
    have hread₁ := readToken_number (second ++ h ++ before₃ :: (third ++ m ++ last ::
      (raster ++ rest))) hfirst hw hbefore₂
    have hread₂ := readToken_number (third ++ m ++ last :: (raster ++ rest))
      (.blank hbefore₂ hsecond) hh hbefore₃
    have hread₃ := readToken_number (raster ++ rest) (.blank hbefore₃ hthird) hm hlast
    simp only [List.cons_append] at hread₂ hread₃
    simp only [readPpm, List.take_succ_cons, List.take_zero, ne_eq, not_true_eq_false, ↓reduceIte,
      List.drop_succ_cons, List.drop_zero, hread₁, hread₂, hread₃, intOfBytes_number hw,
      intOfBytes_number hh, intOfBytes_number hm, Option.bind_eq_bind, Option.bind_some]
    have hsize : (width : Int) * height * 3 = (raster.length : Nat) := by
      rw [hraster]
      push_cast
      rfl
    rw [if_neg (by decide), hsize, if_neg (by rw [List.length_append]; omega), takeTo,
      if_pos (Int.natCast_nonneg _), Int.toNat_natCast, List.take_left]
    rfl

theorem ppmLuminance_ne_raise {F : Type} [PyFloat F] (setOrder : List UInt8 → List UInt8)
    (table : UInt8 → F) {pixels : List UInt8} (h : 3 ≤ pixels.length) :
    ∃ luminance, ppmLuminance setOrder table pixels = .ok luminance :=
  ⟨_, if_neg (by omega)⟩

end FlashCheck

end VitaLinuxPort
