import Mathlib.Algebra.BigOperators.Group.Finset.Basic
import Mathlib.Tactic.NormNum
import VitaLinuxPort.Proof.FlashCheck.Cells

/-!
# The luminance of a picture

The values of a colour are summed up by value, each as often as it occurs, and the colours one after
the other. Over exact numbers that is the sum over the pixels, whatever the order of the values.
-/

namespace VitaLinuxPort

namespace FlashCheck

open Python

/-- What `set` promises of the order in which the distinct bytes of a plane are gone through. -/
structure ListsSet (setOrder : List UInt8 → List UInt8) : Prop where
  nodup : ∀ plane, (setOrder plane).Nodup
  mem_iff : ∀ plane value, value ∈ setOrder plane ↔ value ∈ plane

section Planes

variable {setOrder : List UInt8 → List UInt8}

theorem ListsSet.toFinset_eq (h : ListsSet setOrder) (plane : List UInt8) :
    (setOrder plane).toFinset = plane.toFinset := by
  ext value
  rw [List.mem_toFinset, List.mem_toFinset]
  exact h.mem_iff plane value

/-- A histogram of a plane adds up to the sum over it. -/
theorem ListsSet.sum_count (h : ListsSet setOrder) (f : UInt8 → ℚ) (plane : List UInt8) :
    ((setOrder plane).map fun value => f value * plane.count value).sum = (plane.map f).sum := by
  rw [← List.sum_toFinset _ (h.nodup plane), h.toFinset_eq, Finset.sum_list_map_count]
  apply Finset.sum_congr rfl
  intro value _
  rw [nsmul_eq_mul, mul_comm]

theorem foldl_plane (table : UInt8 → ℚ) (weight total : ℚ) (plane values : List UInt8) :
    values.foldl (fun total value => PyFloat.add total
        (PyFloat.mul (PyFloat.mul weight (table value)) (ofInt (plane.count value)))) total
      = total + (values.map fun value => weight * table value * plane.count value).sum := by
  induction values generalizing total with
  | nil => simp
  | cons value values ih =>
    rw [List.foldl_cons, ih]
    simp [add_assoc]

end Planes

section Pixels

variable (table : UInt8 → ℚ)

/-- The luminance of a pixel by the weights of its colours. -/
def relativeLuminance (red green blue : UInt8) : ℚ :=
  0.2126 * table red + 0.7152 * table green + 0.0722 * table blue

/-- The luminances of the pixels, each of which is three bytes. -/
def pixelLuminances : List UInt8 → List ℚ
  | red :: green :: blue :: rest => relativeLuminance table red green blue :: pixelLuminances rest
  | _ => []

theorem length_pixelLuminances (pixels : List UInt8) :
    (pixelLuminances table pixels).length = pixels.length / 3 := by
  induction pixels using pixelLuminances.induct with
  | case1 red green blue rest ih =>
    rw [pixelLuminances, List.length_cons, ih]
    simp only [List.length_cons]
    omega
  | case2 pixels hshort =>
    match pixels, hshort with
    | [], _ | [_], _ | [_, _], _ => simp [pixelLuminances]
    | red :: green :: blue :: rest, hshort => exact absurd rfl (hshort red green blue rest)

/-- The sum over the pixels is the sum over the planes of their colours. -/
theorem sum_pixelLuminances {pixels : List UInt8} (hpixels : 3 ∣ pixels.length) :
    (pixelLuminances table pixels).sum
      = ((everyThird pixels).map fun value => lumaR * table value).sum
        + ((everyThird (pixels.drop 1)).map fun value => lumaG * table value).sum
        + ((everyThird (pixels.drop 2)).map fun value => lumaB * table value).sum := by
  induction pixels using pixelLuminances.induct with
  | case1 red green blue rest ih =>
    have hrest : 3 ∣ rest.length := by
      simp only [List.length_cons] at hpixels
      omega
    have hluma : relativeLuminance table red green blue
        = lumaR * table red + lumaG * table green + lumaB * table blue := by
      norm_num [relativeLuminance, lumaR, lumaG, lumaB]
    rw [pixelLuminances, List.sum_cons, ih hrest, hluma]
    simp only [List.drop_succ_cons, List.drop_zero, everyThird_cons, List.map_cons, List.sum_cons]
    ring
  | case2 pixels hshort =>
    match pixels, hshort with
    | [], _ => simp [pixelLuminances, everyThird]
    | [_], _ | [_, _], _ =>
      simp only [List.length_cons, List.length_nil] at hpixels
      omega
    | red :: green :: blue :: rest, hshort => exact absurd rfl (hshort red green blue rest)

/-- The histograms give the mean over the pixels. -/
theorem ppmLuminance_eq_mean {setOrder : List UInt8 → List UInt8} (hset : ListsSet setOrder)
    {pixels : List UInt8} (hsome : pixels ≠ []) (hpixels : 3 ∣ pixels.length) :
    ppmLuminance setOrder table pixels
      = .ok ((pixelLuminances table pixels).sum / (pixelLuminances table pixels).length) := by
  have hlength : pixels.length / 3 ≠ 0 := by
    have hpos := List.length_pos_of_ne_nil hsome
    omega
  have hplane (weight : ℚ) (plane : List UInt8) :=
    hset.sum_count (fun value => weight * table value) plane
  rw [ppmLuminance, if_neg hlength, length_pixelLuminances, sum_pixelLuminances table hpixels]
  simp only [List.foldl_cons, List.foldl_nil, List.drop_zero, foldl_plane, hplane]
  simp only [ofInt_rat, Int.cast_zero, zero_add, Int.cast_natCast, div_rat]

/-- Two pixels of a picture, with the values of a plane in the order in which they first occur. -/
theorem ppmLuminance_eq_mean_two_pixels :
    ppmLuminance List.dedup (fun value => (value.toNat : ℚ)) [255, 0, 10, 255, 20, 10]
      = .ok ((pixelLuminances (fun value => (value.toNat : ℚ)) [255, 0, 10, 255, 20, 10]).sum
          / (pixelLuminances (fun value => (value.toNat : ℚ)) [255, 0, 10, 255, 20, 10]).length) :=
  ppmLuminance_eq_mean _ ⟨List.nodup_dedup, fun _ _ => List.mem_dedup⟩ (by decide) (by decide)

end Pixels

end FlashCheck

end VitaLinuxPort
