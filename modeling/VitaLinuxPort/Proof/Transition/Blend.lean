import Mathlib.Algebra.Group.Nat.Defs
import VitaLinuxPort.Cart.Transition
import VitaLinuxPort.Lib.Interpolation
import VitaLinuxPort.Proof.Scenes.Colors

/-!
# The course of a fade

A channel of a blended pixel is the fixed-point interpolation of the endpoint channels at the weight
of the step. The weights start at zero, end at 256, never fall and rise by at most 26 a step, so each
channel runs from one end to the other without overshooting or turning back, by at most 26 levels a
step.
-/

namespace VitaLinuxPort

def red (pixel : UInt32) : Int := (channels pixel).1

def green (pixel : UInt32) : Int := (channels pixel).2.1

def blue (pixel : UInt32) : Int := (channels pixel).2.2

def pack (r g b : UInt8) : UInt32 :=
  r.toUInt32 ||| (g.toUInt32 <<< 8) ||| (b.toUInt32 <<< 16) ||| 0xff000000

theorem or_shiftLeft {low : Nat} {shift : Nat} (hlow : low < 2 ^ shift) (high : Nat) :
    low ||| high <<< shift = low + 2 ^ shift * high := by
  rw [Nat.or_comm, ← Nat.shiftLeft_add_eq_or_of_lt hlow, Nat.shiftLeft_eq, Nat.add_comm,
    Nat.mul_comm]

theorem toNat_pack (r g b : UInt8) :
    (pack r g b).toNat = r.toNat + 2 ^ 8 * g.toNat + 2 ^ 16 * b.toNat + 2 ^ 24 * 255 := by
  have hr := r.toNat_lt
  have hg := g.toNat_lt
  have hb := b.toNat_lt
  have hgreen : (g.toUInt32 <<< 8).toNat = g.toNat <<< 8 := by
    rw [UInt32.toNat_shiftLeft, UInt8.toNat_toUInt32, show (8 : UInt32).toNat % 32 = 8 from rfl,
      Nat.shiftLeft_eq]
    omega
  have hblue : (b.toUInt32 <<< 16).toNat = b.toNat <<< 16 := by
    rw [UInt32.toNat_shiftLeft, UInt8.toNat_toUInt32, show (16 : UInt32).toNat % 32 = 16 from rfl,
      Nat.shiftLeft_eq]
    omega
  have halpha : (0xff000000 : UInt32).toNat = 255 <<< 24 := rfl
  have htwo : r.toNat ||| g.toNat <<< 8 = r.toNat + 2 ^ 8 * g.toNat := or_shiftLeft hr _
  have hthree : (r.toNat + 2 ^ 8 * g.toNat) ||| b.toNat <<< 16 =
      r.toNat + 2 ^ 8 * g.toNat + 2 ^ 16 * b.toNat := or_shiftLeft (by omega) _
  rw [pack, UInt32.toNat_or, UInt32.toNat_or, UInt32.toNat_or, hgreen, hblue, halpha,
    UInt8.toNat_toUInt32, htwo, hthree, or_shiftLeft (by omega)]

theorem toNat_and_mask (value : UInt32) : (value &&& 0xff).toNat = value.toNat % 256 := by
  rw [UInt32.toNat_and]
  exact Nat.and_two_pow_sub_one_eq_mod _ 8

theorem pack_red (r g b : UInt8) : pack r g b &&& 0xff = r.toUInt32 := by
  have hr := r.toNat_lt
  apply UInt32.toNat_inj.mp
  rw [toNat_and_mask, toNat_pack, UInt8.toNat_toUInt32]
  omega

theorem pack_green (r g b : UInt8) : (pack r g b >>> 8) &&& 0xff = g.toUInt32 := by
  have hr := r.toNat_lt
  have hg := g.toNat_lt
  apply UInt32.toNat_inj.mp
  rw [toNat_and_mask, UInt32.toNat_shiftRight, Nat.shiftRight_eq_div_pow, toNat_pack,
    UInt8.toNat_toUInt32, show (8 : UInt32).toNat % 32 = 8 from rfl]
  omega

theorem pack_blue (r g b : UInt8) : (pack r g b >>> 16) &&& 0xff = b.toUInt32 := by
  have hr := r.toNat_lt
  have hg := g.toNat_lt
  have hb := b.toNat_lt
  apply UInt32.toNat_inj.mp
  rw [toNat_and_mask, UInt32.toNat_shiftRight, Nat.shiftRight_eq_div_pow, toNat_pack,
    UInt8.toNat_toUInt32, show (16 : UInt32).toNat % 32 = 16 from rfl]
  omega
theorem ofNat_eq_toUInt32 {value : Nat} (h : value < 256) :
    UInt32.ofNat value = (UInt8.ofNat value).toUInt32 := by
  apply UInt32.toNat_inj.mp
  rw [UInt8.toNat_toUInt32, UInt8.toNat_ofNat', UInt32.toNat_ofNat']
  omega

theorem toNat_toUInt32_ofNat {value : Int} (h : 0 ≤ value ∧ value ≤ 255) :
    ((UInt8.ofNat value.toNat).toUInt32.toNat : Int) = value := by
  rw [UInt8.toNat_toUInt32, UInt8.toNat_ofNat']
  omega

theorem clampChannel_of_mem {value : Int} (h : 0 ≤ value ∧ value ≤ 255) :
    clampChannel value = value := by
  unfold clampChannel
  omega

theorem cartRgba_eq_pack {r g b : Int} (hr : 0 ≤ r ∧ r ≤ 255) (hg : 0 ≤ g ∧ g ≤ 255)
    (hb : 0 ≤ b ∧ b ≤ 255) :
    cartRgba r g b = pack (UInt8.ofNat r.toNat) (UInt8.ofNat g.toNat) (UInt8.ofNat b.toNat) := by
  rw [cartRgba, clampChannel_of_mem hr, clampChannel_of_mem hg, clampChannel_of_mem hb,
    ofNat_eq_toUInt32 (by omega), ofNat_eq_toUInt32 (by omega), ofNat_eq_toUInt32 (by omega), pack]

/-- `cart_rgba` keeps channels that are in range. -/
theorem channels_cartRgba {r g b : Int} (hr : 0 ≤ r ∧ r ≤ 255) (hg : 0 ≤ g ∧ g ≤ 255)
    (hb : 0 ≤ b ∧ b ≤ 255) : channels (cartRgba r g b) = (r, g, b) := by
  rw [cartRgba_eq_pack hr hg hb, channels, pack_red, pack_green, pack_blue,
    toNat_toUInt32_ofNat hr, toNat_toUInt32_ofNat hg, toNat_toUInt32_ofNat hb]

theorem toNat_and_255_le (value : UInt32) : ((value &&& 0xff).toNat : Int) ≤ 255 := by
  rw [toNat_and_mask]
  omega

theorem channels_mem (pixel : UInt32) :
    (0 ≤ red pixel ∧ red pixel ≤ 255) ∧ (0 ≤ green pixel ∧ green pixel ≤ 255) ∧
      (0 ≤ blue pixel ∧ blue pixel ≤ 255) :=
  ⟨⟨Int.natCast_nonneg _, toNat_and_255_le _⟩, ⟨Int.natCast_nonneg _, toNat_and_255_le _⟩,
    ⟨Int.natCast_nonneg _, toNat_and_255_le _⟩⟩

/-- A solid pixel is made of its channels. -/
theorem cartRgba_channels {pixel : UInt32} (hsolid : Solid pixel) :
    cartRgba (red pixel) (green pixel) (blue pixel) = pixel := by
  obtain ⟨hr, hg, hb⟩ := channels_mem pixel
  have hred : red pixel = (pixel.toNat % 256 : Nat) := congrArg Nat.cast (toNat_and_mask pixel)
  have hgreen : green pixel = (pixel.toNat / 256 % 256 : Nat) := by
    have hmask := toNat_and_mask (pixel >>> 8)
    rw [UInt32.toNat_shiftRight, Nat.shiftRight_eq_div_pow] at hmask
    exact congrArg Nat.cast hmask
  have hblue : blue pixel = (pixel.toNat / 65536 % 256 : Nat) := by
    have hmask := toNat_and_mask (pixel >>> 16)
    rw [UInt32.toNat_shiftRight, Nat.shiftRight_eq_div_pow] at hmask
    exact congrArg Nat.cast hmask
  have halpha : pixel.toNat / 16777216 = 255 := by
    have htop := congrArg UInt32.toNat hsolid
    rw [alpha, UInt32.toNat_shiftRight, Nat.shiftRight_eq_div_pow] at htop
    exact htop
  apply UInt32.toNat_inj.mp
  rw [cartRgba_eq_pack hr hg hb, toNat_pack, UInt8.toNat_ofNat', UInt8.toNat_ofNat',
    UInt8.toNat_ofNat', hred, hgreen, hblue]
  omega

theorem mixChannel_eq (source target : Int) (amount : Nat) :
    mixChannel source target amount = interpolate 256 source target amount := by
  rw [mixChannel, interpolate, Int.shiftRight_eq_div_pow]
  rfl

theorem mixChannel_mem {source target : Int} {amount : Nat} (hsource : 0 ≤ source ∧ source ≤ 255)
    (htarget : 0 ≤ target ∧ target ≤ 255) (hamount : amount ≤ 256) :
    0 ≤ mixChannel source target amount ∧ mixChannel source target amount ≤ 255 := by
  have hbetween := @interpolate_between 256 source target amount (by decide) (by omega) (by omega)
  rw [mixChannel_eq]
  omega

/-- The channels of a blend are blended each on its own. -/
theorem channels_cartMix (source target : UInt32) {amount : Nat} (hamount : amount ≤ 256) :
    channels (cartMix source target amount) =
      (interpolate 256 (red source) (red target) amount,
        interpolate 256 (green source) (green target) amount,
        interpolate 256 (blue source) (blue target) amount) := by
  obtain ⟨hr, hg, hb⟩ := channels_mem source
  obtain ⟨hr', hg', hb'⟩ := channels_mem target
  rw [cartMix, if_neg (Nat.not_lt.mpr hamount)]
  show channels (cartRgba (mixChannel (red source) (red target) amount)
    (mixChannel (green source) (green target) amount)
    (mixChannel (blue source) (blue target) amount)) = _
  rw [channels_cartRgba (mixChannel_mem hr hr' hamount) (mixChannel_mem hg hg' hamount)
    (mixChannel_mem hb hb' hamount), mixChannel_eq, mixChannel_eq, mixChannel_eq]

theorem cartMix_solid (source target : UInt32) (amount : Nat) :
    Solid (cartMix source target amount) := solid_cartRgba _ _ _

theorem eq_of_channels {left right : UInt32} (hleft : Solid left) (hright : Solid right)
    (h : channels left = channels right) : left = right := by
  rw [← cartRgba_channels hleft, ← cartRgba_channels hright]
  simp only [red, green, blue, h]

theorem cartMix_zero {source : UInt32} (hsource : Solid source) (target : UInt32) :
    cartMix source target 0 = source := by
  refine eq_of_channels (cartMix_solid _ _ _) hsource ?_
  rw [channels_cartMix source target (by decide)]
  simp only [Nat.cast_zero, interpolate_zero]
  rfl

theorem cartMix_full (source : UInt32) {target : UInt32} (htarget : Solid target) :
    cartMix source target 256 = target := by
  refine eq_of_channels (cartMix_solid _ _ _) htarget ?_
  rw [channels_cartMix source target (by decide)]
  simp only [Nat.cast_ofNat, interpolate_one (show (0 : Int) < 256 by decide)]
  rfl

/-- The weight of a step, by its number; from the last step on it is the last one's. -/
theorem cartTransitionWeight_eq_min (step : UInt64) :
    cartTransitionWeight step = cartTransitionWeight (UInt64.ofNat (min step.toNat 15)) := by
  by_cases hdone : 15 ≤ step.toNat
  · rw [Nat.min_eq_right hdone, cartTransitionWeight, if_neg, if_pos]
    · rfl
    · exact UInt64.le_iff_toNat_le.mpr hdone
    · rintro rfl
      exact absurd hdone (by decide)
  · rw [Nat.min_eq_left (by omega), UInt64.ofNat_toNat]

theorem cartTransitionWeight_le (step : UInt64) : cartTransitionWeight step ≤ 256 := by
  have hsteps : ∀ n < 16, cartTransitionWeight (UInt64.ofNat n) ≤ 256 := by decide
  rw [cartTransitionWeight_eq_min]
  exact hsteps _ (by omega)

theorem cartTransitionWeight_mono {step later : UInt64} (h : step ≤ later) :
    cartTransitionWeight step ≤ cartTransitionWeight later := by
  have hsteps : ∀ m < 16, ∀ n ≤ m,
      cartTransitionWeight (UInt64.ofNat n) ≤ cartTransitionWeight (UInt64.ofNat m) := by decide
  have hle := UInt64.le_iff_toNat_le.mp h
  rw [cartTransitionWeight_eq_min step, cartTransitionWeight_eq_min later]
  exact hsteps _ (by omega) _ (by omega)

theorem cartTransitionWeight_step_le {step next : UInt64} (h : next.toNat = step.toNat + 1) :
    cartTransitionWeight next ≤ cartTransitionWeight step + 26 := by
  have hsteps : ∀ n < 16, cartTransitionWeight (UInt64.ofNat (min (n + 1) 15)) ≤
      cartTransitionWeight (UInt64.ofNat n) + 26 := by decide
  rw [cartTransitionWeight_eq_min step, cartTransitionWeight_eq_min next]
  have hmin : min next.toNat 15 = min (min step.toNat 15 + 1) 15 := by omega
  rw [hmin]
  exact hsteps _ (by omega)

/-- The course of one channel over the steps of a fade. -/
structure Fades (channel : UInt64 → Int) (source target : Int) : Prop where
  start : channel 0 = source
  arrive : ∀ step, cartTransitionFrames ≤ step → channel step = target
  between : ∀ step, min source target ≤ channel step ∧ channel step ≤ max source target
  rise : source ≤ target → ∀ step later, step ≤ later → channel step ≤ channel later
  fall : target ≤ source → ∀ step later, step ≤ later → channel later ≤ channel step
  gentle : ∀ step next : UInt64, next.toNat = step.toNat + 1 →
    |channel next - channel step| ≤ 26

theorem fades_interpolate {source target : Int} (hsource : 0 ≤ source ∧ source ≤ 255)
    (htarget : 0 ≤ target ∧ target ≤ 255) :
    Fades (fun step => interpolate 256 source target (cartTransitionWeight step)) source target where
  start := interpolate_zero 256 source target
  arrive step hstep := by
    have hfull : cartTransitionWeight step = 256 := by
      rw [cartTransitionWeight, if_neg, if_pos hstep]
      · rfl
      · rintro rfl
        exact absurd hstep (by decide)
    rw [hfull]
    exact interpolate_one (by decide) source target
  between step :=
    interpolate_between (by decide) (Int.natCast_nonneg _)
      (by exact_mod_cast cartTransitionWeight_le step)
  rise hends _ _ hle :=
    interpolate_mono (by decide) hends (by exact_mod_cast cartTransitionWeight_mono hle)
  fall hends _ _ hle :=
    interpolate_anti (by decide) hends (by exact_mod_cast cartTransitionWeight_mono hle)
  gentle step next hnext := by
    -- 255 levels at 26 parts of 256 are less than 26 levels
    have hstep := cartTransitionWeight_step_le hnext
    have hmono := cartTransitionWeight_mono (UInt64.le_iff_toNat_le.mpr (by omega) : step ≤ next)
    have hshare : ∀ distance : Int, distance ≤ 255 →
        distance * ((cartTransitionWeight next : Int) - cartTransitionWeight step) ≤ 26 * 256 := by
      intro distance hdistance
      have := Int.mul_le_mul_of_nonneg_right hdistance (show
        (0 : Int) ≤ (cartTransitionWeight next : Int) - cartTransitionWeight step by omega)
      omega
    exact interpolate_close (by decide) (hshare _ (by omega)) (hshare _ (by omega))

theorem zipWith_eq_left {f : UInt32 → UInt32 → UInt32} {source target : Image}
    (hlength : source.length = target.length)
    (h : ∀ a ∈ source, ∀ b ∈ target, f a b = a) : List.zipWith f source target = source := by
  refine List.ext_getElem (by simp [hlength]) fun i hi _ => ?_
  rw [List.getElem_zipWith]
  exact h _ (List.getElem_mem _) _ (List.getElem_mem _)

theorem zipWith_eq_right {f : UInt32 → UInt32 → UInt32} {source target : Image}
    (hlength : source.length = target.length)
    (h : ∀ a ∈ source, ∀ b ∈ target, f a b = b) : List.zipWith f source target = target := by
  refine List.ext_getElem (by simp [hlength]) fun i hi _ => ?_
  rw [List.getElem_zipWith]
  exact h _ (List.getElem_mem _) _ (List.getElem_mem _)

/-- The two copies of the blend are the blend at the weights they are made at. -/
theorem cartTransitionBlend_eq {source target : Image} (hlength : source.length = target.length)
    (hsource : ∀ pixel ∈ source, Solid pixel) (htarget : ∀ pixel ∈ target, Solid pixel)
    (step : UInt64) :
    cartTransitionBlend source target step =
      List.zipWith (cartMix · · (cartTransitionWeight step)) source target := by
  have hle := cartTransitionWeight_le step
  unfold cartTransitionBlend
  dsimp only
  split
  · next hzero =>
    rw [hzero]
    exact (zipWith_eq_left hlength fun a ha b _ => cartMix_zero (hsource a ha) b).symm
  · split
    · next hfull =>
      rw [show cartTransitionWeight step = 256 from Nat.le_antisymm hle hfull]
      exact (zipWith_eq_right hlength fun a _ b hb => cartMix_full a (htarget b hb)).symm
    · rfl

/-- A fade between equally long buffers of solid pixels is the blend at every step, copies included;
every pixel of it is solid, and each channel of each pixel runs from its value in the first buffer to
its value in the second without leaving the two, without turning back and by at most 26 levels a
step. -/
theorem blend_fades {source target : Image} (hlength : source.length = target.length)
    (hsource : ∀ pixel ∈ source, Solid pixel) (htarget : ∀ pixel ∈ target, Solid pixel) :
    (∀ step, cartTransitionBlend source target step =
      List.zipWith (cartMix · · (cartTransitionWeight step)) source target) ∧
    (∀ step, ∀ pixel ∈ cartTransitionBlend source target step, Solid pixel) ∧
    ∀ i < source.length,
      Fades (fun step => red ((cartTransitionBlend source target step).getD i 0))
        (red (source.getD i 0)) (red (target.getD i 0)) ∧
      Fades (fun step => green ((cartTransitionBlend source target step).getD i 0))
        (green (source.getD i 0)) (green (target.getD i 0)) ∧
      Fades (fun step => blue ((cartTransitionBlend source target step).getD i 0))
        (blue (source.getD i 0)) (blue (target.getD i 0)) := by
  have hblend := cartTransitionBlend_eq hlength hsource htarget
  refine ⟨hblend, fun step pixel hpixel => ?_, fun i hi => ?_⟩
  · rw [hblend] at hpixel
    obtain ⟨j, hj, rfl⟩ := List.mem_iff_getElem.mp hpixel
    rw [List.getElem_zipWith]
    exact cartMix_solid _ _ _
  · have hi' : i < target.length := hlength ▸ hi
    have hpixel : ∀ step, channels ((cartTransitionBlend source target step).getD i 0) =
        (interpolate 256 (red source[i]) (red target[i]) (cartTransitionWeight step),
          interpolate 256 (green source[i]) (green target[i]) (cartTransitionWeight step),
          interpolate 256 (blue source[i]) (blue target[i]) (cartTransitionWeight step)) := by
      intro step
      rw [hblend, List.getD_eq_getElem _ _ (by simp [hlength, hi']), List.getElem_zipWith,
        channels_cartMix _ _ (cartTransitionWeight_le step)]
    rw [List.getD_eq_getElem _ _ hi, List.getD_eq_getElem _ _ hi']
    obtain ⟨hr, hg, hb⟩ := channels_mem source[i]
    obtain ⟨hr', hg', hb'⟩ := channels_mem target[i]
    simp only [red, green, blue, hpixel]
    exact ⟨fades_interpolate hr hr', fades_interpolate hg hg', fades_interpolate hb hb'⟩

private def whiteBlack : Image := [0xffffffff, 0xff000000]

private def blackWhite : Image := [0xff000000, 0xffffffff]

theorem blend_fades_whiteBlack :
    cartTransitionBlend whiteBlack blackWhite 7 =
        List.zipWith (cartMix · · (cartTransitionWeight 7)) whiteBlack blackWhite ∧
      Fades (fun step => red ((cartTransitionBlend whiteBlack blackWhite step).getD 0 0))
        (red (whiteBlack.getD 0 0)) (red (blackWhite.getD 0 0)) :=
  have h := @blend_fades whiteBlack blackWhite rfl
    (List.forall_mem_cons.mpr ⟨by decide, List.forall_mem_singleton.mpr (by decide)⟩)
    (List.forall_mem_cons.mpr ⟨by decide, List.forall_mem_singleton.mpr (by decide)⟩)
  ⟨h.1 7, (h.2.2 0 (by decide)).1⟩

end VitaLinuxPort
