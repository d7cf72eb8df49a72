import VitaLinuxPort.Cart.WorkerPool
import VitaLinuxPort.Lib.Painting
import VitaLinuxPort.Proof.Scenes.Colors

/-!
# Bands

A row pass of a scene paints: the pixel it writes is a function of the place and the frame. So the
passes of the bands, in whatever order the workers do them, leave what one pass over all rows leaves,
and since that covers the buffer nothing of an earlier frame shows. The overlay then starts from equal
buffers.
-/

namespace VitaLinuxPort

section Rows

variable (sine : Nat → Int) (which : SceneIndex)

/-- What the row pass of the scene writes. -/
def scenePixel (t x y : Int) : UInt32 :=
  match which with
  | 0 => candyPixel sine t x y
  | 1 => checkerPixel sine t x y
  | 2 => bubblesPixel sine t x y
  | 3 => ribbonsPixel sine t x y
  | 4 => chromePixel sine x y
  | 5 => sugarPixel sine t x y

theorem solid_scenePixel (t x y : Int) : Solid (scenePixel sine which t x y) := by
  unfold scenePixel
  split
  · exact solid_mix _ _ _
  · exact solid_mix _ _ _
  · exact solid_ite (solid_mix _ _ _) (solid_mix _ _ _)
  · exact solid_ite (solid_mix _ _ _) (solid_ite (solid_mix _ _ _) (solid_mix _ _ _))
  · exact solid_ite (solid_mix _ _ _) (solid_ite solid_pal_two (solid_mix _ _ _))
  · exact solid_mix _ _ _

/-- The pixel at a place of the buffer. -/
def placePixel (t : Int) (place : Nat) : UInt32 :=
  scenePixel sine which t (place % logicalWidth : Nat) (place / logicalWidth : Nat)

/-- The places of the rows from `rows.1` to before `rows.2`. -/
def places (rows : Int × Int) : List Nat :=
  (Int.range rows.1 rows.2).flatMap fun y =>
    (Int.range 0 logicalWidth).map fun x => (y * (logicalWidth : Int) + x).toNat

theorem mem_places {rows : Int × Int} (hfirst : 0 ≤ rows.1) (place : Nat) :
    place ∈ places rows ↔
      rows.1 ≤ (place / logicalWidth : Nat) ∧ (place / logicalWidth : Nat) < rows.2 := by
  simp only [places, List.mem_flatMap, List.mem_map, Int.mem_range_iff, logicalWidth]
  constructor
  · rintro ⟨y, ⟨hy, hlast⟩, x, ⟨hx, hwidth⟩, rfl⟩
    omega
  · rintro ⟨hfirst, hlast⟩
    exact ⟨(place / 320 : Nat), ⟨hfirst, hlast⟩, (place % 320 : Nat), by omega, by omega⟩

theorem rowPass_eq_paint (t : Int) {rows : Int × Int} (hfirst : 0 ≤ rows.1) (low : Image) :
    rowPass rows.1 rows.2 (scenePixel sine which t) low
      = Painting.paint (placePixel sine which t) (places rows) low := by
  apply Painting.foldl_eq_paint
  intro low _ y hy
  rw [Painting.paint, List.foldl_map]
  apply List.foldl_ext
  intro low x hx
  rw [Int.mem_range_iff] at hy hx
  have hx : ((y * (logicalWidth : Int) + x).toNat % logicalWidth : Nat) = x := by
    unfold logicalWidth at hx ⊢
    omega
  have hy : ((y * (logicalWidth : Int) + x).toNat / logicalWidth : Nat) = y := by
    unfold logicalWidth at hx ⊢
    omega
  rw [placePixel, hx, hy]

end Rows

/-- The bands are consecutive, the first begins at `first` and the last ends at `last`. A band may be
empty. -/
def Split (first last : Int) : List (Int × Int) → Prop
  | [] => first = last
  | band :: bands => band.1 = first ∧ first ≤ band.2 ∧ Split band.2 last bands

instance decidableSplit (first last : Int) :
    (bands : List (Int × Int)) → Decidable (Split first last bands)
  | [] => inferInstanceAs (Decidable (first = last))
  | band :: bands =>
      have := decidableSplit band.2 last bands
      inferInstanceAs (Decidable (band.1 = first ∧ first ≤ band.2 ∧ Split band.2 last bands))

theorem Split.first_le {first last : Int} {bands : List (Int × Int)} (h : Split first last bands) :
    first ≤ last ∧ ∀ band ∈ bands, first ≤ band.1 := by
  induction bands generalizing first with
  | nil => exact ⟨h.le, by simp⟩
  | cons band bands ih =>
    obtain ⟨rfl, hle, hsplit⟩ := h
    obtain ⟨hlast, hbands⟩ := ih hsplit
    refine ⟨by omega, ?_⟩
    intro other hother
    obtain rfl | hother := List.mem_cons.mp hother
    · exact le_rfl
    · have := hbands other hother
      omega

/-- The rows of the bands are those that they split. -/
theorem Split.exists_mem_iff {first last : Int} {bands : List (Int × Int)}
    (h : Split first last bands) (row : Int) :
    (∃ band ∈ bands, band.1 ≤ row ∧ row < band.2) ↔ first ≤ row ∧ row < last := by
  induction bands generalizing first with
  | nil =>
    simp only [Split] at h
    simp
    omega
  | cons band bands ih =>
    obtain ⟨rfl, hle, hsplit⟩ := h
    have hlast := hsplit.first_le.1
    rw [List.exists_mem_cons_iff, ih hsplit]
    omega

/-- The bands of the workers of a pool. -/
def poolBands (workerCount : Nat) : List (Int × Int) :=
  (List.range workerCount).map fun i =>
    ((bandBound i (.ofNat logicalHeight) workerCount).toInt,
      (bandBound (i + 1) (.ofNat logicalHeight) workerCount).toInt)

theorem split_poolBands {workerCount : Nat} (hpos : 0 < workerCount)
    (hmax : workerCount ≤ cartWorkerPoolMax) : Split 0 logicalHeight (poolBands workerCount) := by
  unfold cartWorkerPoolMax at hmax
  interval_cases workerCount <;> decide

theorem split_inline : Split 0 logicalHeight [(0, (logicalHeight : Int))] :=
  ⟨rfl, Int.natCast_nonneg _, rfl⟩

section Frames

variable [Target] (sine : Nat → Int) (which : SceneIndex) (frame : UInt64)

theorem rowJob_eq {rows : Int × Int} (hfirst : 0 ≤ rows.1) (canvas : CartCanvas) :
    rowJob sine which frame canvas rows = { canvas with
      pixels := Painting.paint (placePixel sine which (legacyFramePhase frame)) (places rows)
        canvas.pixels } := by
  rw [← rowPass_eq_paint _ _ _ hfirst]
  match which with
  | 0 | 1 | 2 | 3 | 4 | 5 => rfl

theorem foldl_rowJob {bands : List (Int × Int)} (hfirst : ∀ band ∈ bands, 0 ≤ band.1)
    (low : Image) :
    bands.foldl (rowJob sine which frame) (lowCanvas low)
      = lowCanvas (Painting.paint (placePixel sine which (legacyFramePhase frame))
          (bands.flatMap places) low) := by
  rw [← Painting.foldl_eq_paint fun _ _ _ _ => rfl]
  induction bands generalizing low with
  | nil => rfl
  | cons band bands ih =>
    rw [List.foldl_cons, List.foldl_cons, rowJob_eq _ _ _ (hfirst band List.mem_cons_self)]
    exact ih (fun other hother => hfirst other (List.mem_cons_of_mem _ hother)) _

/-- The buffer between the row passes and the overlay. -/
def rowsPixels : Image :=
  (List.range (logicalWidth * logicalHeight)).map (placePixel sine which (legacyFramePhase frame))

omit [Target] in
theorem length_rowsPixels :
    (rowsPixels sine which frame).length = logicalWidth * logicalHeight := by
  rw [rowsPixels, List.length_map, List.length_range]

omit [Target] in
theorem solid_rowsPixels : ∀ pixel ∈ rowsPixels sine which frame, Solid pixel := by
  intro pixel hpixel
  rw [rowsPixels, List.mem_map] at hpixel
  obtain ⟨place, -, rfl⟩ := hpixel
  exact solid_scenePixel _ _ _ _ _

omit [Target] in
theorem painted_lowCanvas {low : Image} (hlength : low.length = logicalWidth * logicalHeight)
    (hsolid : ∀ pixel ∈ low, Solid pixel) :
    (lowCanvas low).Painted (logicalWidth * logicalHeight) :=
  ⟨hlength, hsolid⟩

theorem foldl_rowJob_of_split {bands order : List (Int × Int)} (hsplit : Split 0 logicalHeight bands)
    (hperm : order.Perm bands) {low : Image} (hlow : low.length = logicalWidth * logicalHeight) :
    order.foldl (rowJob sine which frame) (lowCanvas low)
      = lowCanvas (rowsPixels sine which frame) := by
  have hfirst : ∀ band ∈ order, 0 ≤ band.1 := fun band hband =>
    hsplit.first_le.2 band (hperm.mem_iff.mp hband)
  rw [foldl_rowJob _ _ _ hfirst, Painting.paint_eq_map, hlow, rowsPixels]
  intro place hplace
  have hrow : (place / logicalWidth : Nat) < (logicalHeight : Int) := by
    unfold logicalWidth logicalHeight at *
    omega
  obtain ⟨band, hband, hrows⟩ := (hsplit.exists_mem_iff _).mpr ⟨Int.natCast_nonneg _, hrow⟩
  have hmem := hperm.mem_iff.mpr hband
  exact List.mem_flatMap.mpr ⟨band, hmem, (mem_places (hfirst band hmem) place).mpr hrows⟩

theorem renderSelected_eq_overlay {bands order : List (Int × Int)}
    (hsplit : Split 0 logicalHeight bands) (hperm : order.Perm bands) {low : Image}
    (hlow : low.length = logicalWidth * logicalHeight) :
    renderSelected sine which frame order low
      = (overlay sine (lowCanvas (rowsPixels sine which frame)) which
          (legacyFramePhase frame)).pixels := by
  rw [renderSelected, foldl_rowJob_of_split sine which frame hsplit hperm hlow]
  rfl

/-- A frame rendered in bands, whatever they are and in whatever order they are done, is the frame
rendered inline, and every pixel of it has alpha 255. Neither depends on what the buffer held. -/
theorem renderSelected_of_split {bands order : List (Int × Int)}
    (hsplit : Split 0 logicalHeight bands) (hperm : order.Perm bands) {low other : Image}
    (hlow : low.length = logicalWidth * logicalHeight)
    (hother : other.length = logicalWidth * logicalHeight) :
    renderSelected sine which frame order low
        = renderSelected sine which frame [(0, logicalHeight)] other ∧
      (renderSelected sine which frame order low).length = logicalWidth * logicalHeight ∧
      ∀ pixel ∈ renderSelected sine which frame order low, alpha pixel = 0xff := by
  have hpainted := painted_overlay sine (legacyFramePhase frame)
    (painted_lowCanvas (length_rowsPixels sine which frame) (solid_rowsPixels sine which frame)) which
  rw [renderSelected_eq_overlay sine which frame hsplit hperm hlow,
    renderSelected_eq_overlay sine which frame split_inline (.refl _) hother]
  exact ⟨rfl, hpainted.length, hpainted.solid⟩

/-- Three workers' bands and an empty one. -/
def reversedBands : List (Int × Int) := [(120, 180), (60, 120), (60, 60), (0, 60)]

omit [Target] in
/-- Over a buffer that shows something else. -/
theorem renderSelected_of_split_reversed :
    letI := armv7
    renderSelected (fun _ => 700) 3 65537 reversedBands
          (.replicate (logicalWidth * logicalHeight) 0xff8cc5)
        = renderSelected (fun _ => 700) 3 65537 [(0, 180)]
            (.replicate (logicalWidth * logicalHeight) 0) ∧
      (renderSelected (fun _ => 700) 3 65537 reversedBands
        (.replicate (logicalWidth * logicalHeight) 0xff8cc5)).length
        = logicalWidth * logicalHeight ∧
      ∀ pixel ∈ renderSelected (fun _ => 700) 3 65537 reversedBands
        (.replicate (logicalWidth * logicalHeight) 0xff8cc5), alpha pixel = 0xff :=
  @renderSelected_of_split armv7 (fun _ => 700) 3 65537 reversedBands.reverse _
    (by decide) (by decide) _ _ List.length_replicate List.length_replicate

theorem renderSelected_poolBands {workerCount : Nat} (hpos : 0 < workerCount)
    (hmax : workerCount ≤ cartWorkerPoolMax) {order : List (Int × Int)}
    (hperm : order.Perm (poolBands workerCount)) {low : Image}
    (hlow : low.length = logicalWidth * logicalHeight) :
    renderSelected sine which frame order low
      = renderSelected sine which frame [(0, logicalHeight)] low := by
  rw [renderSelected_eq_overlay sine which frame (split_poolBands hpos hmax) hperm hlow,
    renderSelected_eq_overlay sine which frame split_inline (.refl _) hlow]

end Frames

end VitaLinuxPort
