import VitaLinuxPort.Cart.WorkerPool
import VitaLinuxPort.Lib.Tiling

/-!
# The bands tile the image

As long as the last product, `worker_count * rows`, is an `int`, the workers' bands are the parts into
which `Tiling` cuts the rows. Nothing in `cart_worker_pool_init` keeps the product from being larger.
-/

namespace VitaLinuxPort

/-- The rows a worker is given. -/
def workerBand (workerCount : Nat) (rows : Int32) (index : Nat) : Int × Int :=
  ((bandBound index rows workerCount).toInt, (bandBound (index + 1) rows workerCount).toInt)

def InBand (band : Int × Int) (row : Int) : Prop := band.1 ≤ row ∧ row < band.2

/-- The bands of the workers are computed within `int`; each row is in exactly one of them, and they
have no others, as the call without workers has it; each begins where the one before ends; they differ
in size by one at most. -/
structure BandsTile (workerCount : Nat) (rows : Int32) : Prop where
  computed : ∀ i < workerCount,
    checkedBand i rows.toInt workerCount = some (workerBand workerCount rows i)
  covers : ∀ row, (∃ i < workerCount, InBand (workerBand workerCount rows i) row)
    ↔ InBand ((inlineBand rows).1.toInt, (inlineBand rows).2.toInt) row
  unique : ∀ row, 0 ≤ row → row < rows.toInt →
    ∃! i, i < workerCount ∧ InBand (workerBand workerCount rows i) row
  within : ∀ i < workerCount, 0 ≤ (workerBand workerCount rows i).1 ∧
    (workerBand workerCount rows i).1 ≤ (workerBand workerCount rows i).2 ∧
    (workerBand workerCount rows i).2 ≤ rows.toInt
  consecutive : ∀ i, i + 1 < workerCount →
    (workerBand workerCount rows i).2 = (workerBand workerCount rows (i + 1)).1
  even : ∀ i < workerCount, ∀ j < workerCount,
    (workerBand workerCount rows i).2 - (workerBand workerCount rows i).1
      ≤ (workerBand workerCount rows j).2 - (workerBand workerCount rows j).1 + 1

section Bounds

variable {workerCount : Nat} {rows : Int32}

theorem rows_pos (haccepts : cartWorkerPoolAccepts workerCount rows) : 0 < rows.toInt := by
  have hrows := (not_or.mp (not_or.mp haccepts).2).2
  rw [Int32.le_iff_toInt_le] at hrows
  exact not_le.mp hrows

theorem workerCount_le (haccepts : cartWorkerPoolAccepts workerCount rows) : workerCount ≤ 8 := by
  have hcount := (not_or.mp (not_or.mp haccepts).2).1
  unfold cartWorkerPoolMax at hcount
  omega

theorem product_le {index : Nat} (hindex : index ≤ workerCount) (hrows : 0 < rows.toInt)
    (hfits : workerCount * rows.toInt ≤ 2147483647) : index * rows.toInt ≤ 2147483647 :=
  le_trans (mul_le_mul_of_nonneg_right (Int.ofNat_le.mpr hindex) hrows.le) hfits

theorem checkedBandBound_eq {index : Nat} (hpos : 0 < workerCount) (hrows : 0 < rows.toInt)
    (hfits : index * rows.toInt ≤ 2147483647) :
    checkedBandBound index rows.toInt workerCount = some (index * rows.toInt / workerCount) := by
  have hnonneg : 0 ≤ index * rows.toInt := mul_nonneg (Int.natCast_nonneg _) hrows.le
  have hquotient : index * rows.toInt / workerCount ≤ index * rows.toInt :=
    Int.ediv_le_self _ hnonneg
  have hquotient_nonneg : 0 ≤ index * rows.toInt / workerCount :=
    Int.ediv_nonneg hnonneg (Int.natCast_nonneg _)
  rw [checkedBandBound, CIntType.mul_of_holds (CIntType.holds_int32_iff.mpr (by omega)),
    Option.bind_eq_bind, Option.bind_some, CIntType.div_of_holds (by omega),
    Int.tdiv_eq_ediv_of_nonneg hnonneg]
  rw [Int.tdiv_eq_ediv_of_nonneg hnonneg, CIntType.holds_int32_iff]
  omega

/-- Where the product is an `int`, so is the bound, and it is the one that the pool computes. -/
theorem toInt_bandBound {index : Nat} (hpos : 0 < workerCount) (hcount : workerCount ≤ 8)
    (hindex : index ≤ workerCount) (hrows : 0 < rows.toInt)
    (hfits : index * rows.toInt ≤ 2147483647) :
    (bandBound index rows workerCount).toInt = index * rows.toInt / workerCount := by
  have hnonneg : 0 ≤ index * rows.toInt := mul_nonneg (Int.natCast_nonneg _) hrows.le
  have hquotient : index * rows.toInt / workerCount ≤ index * rows.toInt :=
    Int.ediv_le_self _ hnonneg
  have hquotient_nonneg : 0 ≤ index * rows.toInt / workerCount :=
    Int.ediv_nonneg hnonneg (Int.natCast_nonneg _)
  have hproduct : (index * rows.toInt).bmod (2 ^ 32) = index * rows.toInt :=
    Int.bmod_eq_of_le_mul_two (by omega) (by omega)
  rw [bandBound, Int32.toInt_div, Int32.toInt_mul, Int32.toInt_ofNat_of_lt (by omega),
    Int32.toInt_ofNat_of_lt (by omega), hproduct, Int.tdiv_eq_ediv_of_nonneg hnonneg]
  exact Int.bmod_eq_of_le_mul_two (by omega) (by omega)

end Bounds

section Accepted

variable {workerCount : Nat} {rows : Int32} (hpos : 0 < workerCount)
  (haccepts : cartWorkerPoolAccepts workerCount rows)
include hpos haccepts

theorem workerBand_eq (hfits : workerCount * rows.toInt ≤ 2147483647) {index : Nat}
    (hindex : index < workerCount) :
    workerBand workerCount rows index
      = (index * rows.toInt / workerCount, (index + 1 : Nat) * rows.toInt / workerCount) := by
  have hrows := rows_pos haccepts
  have hcount := workerCount_le haccepts
  rw [workerBand, toInt_bandBound hpos hcount hindex.le hrows (product_le hindex.le hrows hfits),
    toInt_bandBound hpos hcount hindex hrows (product_le hindex hrows hfits)]

theorem checkedBand_eq (hfits : workerCount * rows.toInt ≤ 2147483647) {index : Nat}
    (hindex : index < workerCount) :
    checkedBand index rows.toInt workerCount = some (workerBand workerCount rows index) := by
  have hrows := rows_pos haccepts
  have hcount := workerCount_le haccepts
  have hnext : CIntType.int32.add index 1 = some ((index + 1 : Nat) : Int) :=
    CIntType.add_of_holds (CIntType.holds_int32_iff.mpr (by omega))
  rw [workerBand_eq hpos haccepts hfits hindex, checkedBand,
    checkedBandBound_eq hpos hrows (product_le hindex.le hrows hfits), hnext]
  simp only [Option.bind_eq_bind, Option.bind_some,
    checkedBandBound_eq hpos hrows (product_le hindex hrows hfits)]
  rfl

theorem bandsTile_of_fits (hfits : workerCount * rows.toInt ≤ 2147483647) :
    BandsTile workerCount rows := by
  have hrows := rows_pos haccepts
  have hcount : (0 : Int) < workerCount := Int.natCast_pos.mpr hpos
  have hmono : MonotoneOn (fun i : Nat => (i : Int) * rows.toInt / workerCount)
      (Set.Iic workerCount) := (Tiling.even_mono hrows.le hcount).monotoneOn _
  have hfirst : ((0 : Nat) : Int) * rows.toInt / workerCount = 0 := by simp
  have hlast : (workerCount : Int) * rows.toInt / workerCount = rows.toInt :=
    Int.mul_ediv_cancel_left _ hcount.ne'
  have hband := @workerBand_eq workerCount rows hpos haccepts hfits
  have hwithin : ∀ i < workerCount, 0 ≤ (workerBand workerCount rows i).1 ∧
      (workerBand workerCount rows i).1 ≤ (workerBand workerCount rows i).2 ∧
      (workerBand workerCount rows i).2 ≤ rows.toInt := by
    intro i hi
    rw [hband hi]
    have hbetween := Tiling.between hmono hi
    simp only [hfirst, hlast] at hbetween
    exact hbetween
  have hunique : ∀ row, 0 ≤ row → row < rows.toInt →
      ∃! i, i < workerCount ∧ InBand (workerBand workerCount rows i) row := by
    intro row hrow hbelow
    obtain ⟨i, hi, honly⟩ := Tiling.existsUnique_mem hmono (hfirst.trans_le hrow)
      (hbelow.trans_eq hlast.symm)
    refine ⟨i, ⟨hi.1, by rw [hband hi.1]; exact hi.2⟩, fun j hj => honly j ⟨hj.1, ?_⟩⟩
    have hmem := hj.2
    rw [hband hj.1] at hmem
    exact hmem
  refine ⟨fun i hi => checkedBand_eq hpos haccepts hfits hi, ?_, hunique, hwithin,
    fun _ _ => rfl, ?_⟩
  · intro row
    constructor
    · rintro ⟨i, hi, hmem⟩
      have hbounds := hwithin i hi
      exact ⟨hbounds.1.trans hmem.1, hmem.2.trans_le hbounds.2.2⟩
    · rintro ⟨hrow, hbelow⟩
      obtain ⟨i, hi, -⟩ := hunique row hrow hbelow
      exact ⟨i, hi⟩
  · intro i hi j hj
    rw [hband hi, hband hj, Nat.cast_succ, Nat.cast_succ]
    have hupper := @Tiling.even_size_le rows.toInt _ hcount i
    have hlower := @Tiling.le_even_size rows.toInt _ hcount j
    exact hupper.trans (Int.add_le_add_right hlower 1)

/-- The last bound is computed from the largest product. -/
theorem fits_of_bandsTile (htile : BandsTile workerCount rows) :
    workerCount * rows.toInt ≤ 2147483647 := by
  obtain ⟨index, rfl⟩ := Nat.exists_eq_succ_of_ne_zero hpos.ne'
  have hcomputed := htile.computed index (Nat.lt_succ_self index)
  have hcount := workerCount_le haccepts
  have hnext : CIntType.int32.add index 1 = some ((index + 1 : Nat) : Int) :=
    CIntType.add_of_holds (CIntType.holds_int32_iff.mpr (by omega))
  rw [checkedBand, hnext] at hcomputed
  simp only [Option.bind_eq_bind, Option.bind_eq_some_iff, Option.some.injEq] at hcomputed
  obtain ⟨start, -, next, rfl, stop, hstop, -⟩ := hcomputed
  rw [checkedBandBound, Option.bind_eq_bind, Option.bind_eq_some_iff] at hstop
  obtain ⟨product, hproduct, -⟩ := hstop
  rw [CIntType.mul, CIntType.fit_eq_some_iff] at hproduct
  exact hproduct.1.2

/-- The bands of the workers tile the rows exactly where the last of the products is an `int`. -/
theorem bands_tile_iff :
    BandsTile workerCount rows ↔ workerCount * rows.toInt ≤ 2147483647 :=
  ⟨fits_of_bandsTile hpos haccepts, bandsTile_of_fits hpos haccepts⟩

end Accepted

/-- The scenes' height in the bands of four workers. -/
theorem bands_tile_iff_four : BandsTile 4 180 ↔ 4 * (180 : Int32).toInt ≤ 2147483647 :=
  @bands_tile_iff 4 180 (by decide) (by unfold cartWorkerPoolAccepts; decide)

/-- Two workers and the largest `int`: the product of the second band's end wraps to `-2`. -/
theorem bands_tile_iff_wraps :
    ¬∀ (workerCount : Nat) (rows : Int32), 0 < workerCount →
      cartWorkerPoolAccepts workerCount rows → BandsTile workerCount rows := by
  intro h
  have htile := h 2 2147483647 (by decide) (by unfold cartWorkerPoolAccepts; decide)
  exact absurd (htile.within 1 (by decide)).2.1 (by decide)

end VitaLinuxPort
