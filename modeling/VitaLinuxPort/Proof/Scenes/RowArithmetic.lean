import VitaLinuxPort.Cart.SceneArithmetic
import VitaLinuxPort.Proof.Scenes.Bands
import VitaLinuxPort.Proof.Transition.Blend

/-!
# The arithmetic of the row passes

The phase of a frame is below 65536, the rows and columns are those of the buffer and the sine table
has values of at most 1024 in magnitude. From that each expression of a pixel lies in the type, and
each pixel has a colour.
-/

namespace VitaLinuxPort

open CExpression

variable {ok ok' ok'' : Bool} {e e' e'' : CExpression} {v v' v'' a b c d : Int}

section Colors

theorem checkedPal_eq (h : Within ok e v a b) (hindex : (ok && decide (0 ≤ a ∧ b ≤ 9)) = true) :
    checkedPal e = some (pal v) := by
  obtain ⟨hok, ha, hb⟩ := of_condition hindex
  have hlow := ha.trans (h.low_le hok)
  have hindex : v.toNat < palette.length := by
    have hhigh := (h.le_high hok).trans hb
    have hlength : palette.length = 10 := rfl
    omega
  rw [checkedPal, h.bind hok, if_pos hlow, pal, List.getD_eq_getElem _ _ hindex]
  exact List.getElem?_eq_getElem hindex

theorem checkedMixChannel_eq {source target : Int} (hsource : 0 ≤ source ∧ source ≤ 255)
    (htarget : 0 ≤ target ∧ target ≤ 255) {amount : Nat} (hamount : amount ≤ 256) :
    checkedMixChannel source target amount = some (mixChannel source target amount) := by
  have hsource := Within.int hsource.1 hsource.2
  have htarget := Within.int htarget.1 htarget.2
  have hamount : Within true (amount : Int) amount (-256) 256 := .int (by omega) (by omega)
  have hdiff := (htarget.sub hsource).mono (-255) 255
  exact (hsource.add ((hdiff.mul hamount).shiftRight 8)).eq rfl

theorem checkedCartMix_eq (source target : UInt32) (amount : Nat) :
    checkedCartMix source target amount = some (cartMix source target amount) := by
  rw [checkedCartMix, cartMix]
  have hamount : (if amount > 256 then 256 else amount) ≤ 256 := by
    split
    · exact Nat.le_refl 256
    · omega
  obtain ⟨hred, hgreen, hblue⟩ := channels_mem source
  obtain ⟨hred', hgreen', hblue'⟩ := channels_mem target
  have hr := checkedMixChannel_eq hred hred' hamount
  have hg := checkedMixChannel_eq hgreen hgreen' hamount
  have hb := checkedMixChannel_eq hblue hblue' hamount
  exact ((bind_of_eq hr _).trans (bind_of_eq hg _)).trans (bind_of_eq hb _)

theorem checkedMix_eq (h : Within ok e v a b) (h' : Within ok' e' v' c d) {low high : Int}
    (ht : Within ok'' e'' v'' low high) (hindex : (ok && decide (0 ≤ a ∧ b ≤ 9)) = true)
    (hindex' : (ok' && decide (0 ≤ c ∧ d ≤ 9)) = true) (hok : ok'' = true) :
    checkedMix e e' e'' = some (mix (pal v) (pal v') v'') := by
  rw [checkedMix, bind_of_eq (checkedPal_eq h hindex), bind_of_eq (checkedPal_eq h' hindex'),
    ht.bind hok]
  exact checkedCartMix_eq _ _ _

end Colors

section Pixels

variable {sine : Nat → Int} (hsine : ∀ k < 2048, -1024 ≤ sine k ∧ sine k ≤ 1024)
include hsine

theorem within_si (h : Within ok e v a b) :
    Within ok (checkedSi sine e) (si sine v) (-1024) 1024 := by
  intro hok
  have hindex := Within.bitAnd (h.eq hok) 2047
  have hbelow : (v % 2048).toNat < 2048 := by omega
  obtain ⟨hlow, hhigh⟩ := hsine _ hbelow
  refine ⟨?_, hlow, hhigh⟩
  rw [checkedSi, hindex.bind rfl]
  exact if_pos ⟨hindex.low_le rfl, (hindex.le_high rfl).trans_lt (by decide)⟩

/-- A table value is scaled and centered before it is an amount to mix. -/
theorem within_glow (h : Within ok e v a b) (count : Nat) :
    Within ok (shiftRight (checkedSi sine e + 1024) count) ((si sine v + 1024) >>> count)
      (0 >>> count) (2048 >>> count) := by
  intro hok
  subst hok
  exact ((within_si hsine h).add (.lit 1024)).shiftRight count rfl

variable {t x y : Int} (ht : Within true t t 0 65535) (hx : Within true x x 0 319)
  (hy : Within true y y 0 179)
include ht hx hy

theorem checkedCandyPixel_eq : checkedCandyPixel sine t x y = some (candyPixel sine t x y) := by
  have hdx := (hx.sub (.lit 160)).mono (-160) 160
  have hdy := (hy.sub (.lit 90)).mono (-90) 90
  have hd := ((hdx.var rfl).sq.add (hdy.var rfl).sq).shiftRight 4
  have hacross := within_si hsine (.bitAnd (((hx.scale 9).add (ht.scale 11)).eq rfl) 2047)
  have hdown := within_si hsine (.bitAnd (((hy.scale 13).sub (ht.scale 7)).eq rfl) 2047)
  have hwarp := hacross.add hdown
  have hsum := ((hd.var rfl).add ((hwarp.var rfl).shiftRight 7)).sub (ht.scale 8)
  have hband := Within.bitAnd ((hsum.shiftRight 4).eq rfl) 7
  have hfirst := (hband.var rfl).mod 5
  have hsecond := ((hband.var rfl).add (.lit 1)).mod 5
  have hglow := within_glow hsine (((hd.var rfl).scale 5).add (ht.scale 17)) 3
  rw [checkedCandyPixel, hdx.bind rfl, hdy.bind rfl, hd.bind rfl, hwarp.bind rfl, hband.bind rfl]
  exact checkedMix_eq hfirst hsecond hglow rfl rfl rfl

theorem checkedCheckerPixel_eq :
    checkedCheckerPixel sine t x y = some (checkerPixel sine t x y) := by
  have hyy := hy.add ((within_si hsine ((hx.scale 10).add (ht.scale 14))).shiftRight 8)
  have hxx := hx.add ((within_si hsine ((hy.scale 13).sub (ht.scale 9))).shiftRight 8)
  have hcells := ((hxx.var rfl).shiftRight 3).bitXor_eq ((hyy.var rfl).shiftRight 3) rfl rfl
  have hq := Within.bitAnd hcells 1
  have hglow := within_glow hsine (((hx.scale 6).add (hy.scale 8)).add (ht.scale 12)) 4
  rw [checkedCheckerPixel, hyy.bind rfl, hxx.bind rfl, hq.bind rfl, hglow.bind rfl]
  refine (checkedMix_eq ((Within.lit 0).ite (.lit 4)) ((Within.lit 2).ite (.lit 5)) (hglow.var rfl)
    rfl rfl rfl).trans ?_
  rw [apply_ite pal, apply_ite pal]
  rfl

omit hx hy in
/-- The centers of the bubbles. -/
theorem within_bubble {i : Int} (hi : Within true i i 0 6) :
    Within true (checkedBubbleX sine t i) (bubbleX sine t i) 0 320 ∧
      Within true (checkedBubbleY sine t i) (bubbleY sine t i) 0 180 := by
  have hacross := within_si hsine ((ht.mul_nonneg ((Within.lit 7).add hi)).add (hi.scale 273))
  have hdown := within_si hsine ((ht.mul_nonneg ((Within.lit 9).add hi)).add (hi.scale 411))
  have hx := (hacross.mul ((Within.lit 45).add (hi.scale 5))).shiftRight 10
  have hy := (hdown.mul ((Within.lit 28).add (hi.scale 4))).shiftRight 10
  exact ⟨((Within.lit 160).add hx).mono 0 320, ((Within.lit 90).add hy).mono 0 180⟩

/-- The values of the arrays `bx` and `by`. -/
def bubbles (sine : Nat → Int) (t : Int) : List (Int × Int) :=
  (Int.range 0 7).map fun i => (bubbleX sine t i, bubbleY sine t i)

omit hsine ht hx hy in
theorem getElem?_bubbles {i : Int} (hi : Within true i i 0 6) :
    (bubbles sine t)[i.toNat]? = some (bubbleX sine t i, bubbleY sine t i) := by
  have hlow := hi.low_le rfl
  have hhigh := hi.le_high rfl
  have hindex : i.toNat < (7 - 0 : Int).toNat := by omega
  have hturn : (Int.range 0 7)[i.toNat]? = some i := by
    rw [Int.range, List.getElem?_map, List.getElem?_range hindex, Option.map_some]
    exact congrArg some (by omega)
  rw [bubbles, List.getElem?_map, hturn]
  rfl

omit hx hy in
theorem checkedBubbles_eq : checkedBubbles sine t = some (bubbles sine t) := by
  refine (@loop_eq_of_turn _ _ (fun centers i => centers ++ [(bubbleX sine t i, bubbleY sine t i)])
    0 7 (by decide) (by decide) (fun i hi hi' centers => ?_) []).trans rfl
  obtain ⟨hbx, hby⟩ := within_bubble hsine ht (.int hi (Int.le_sub_one_of_lt hi'))
  rw [hbx.bind rfl, hby.bind rfl]
  rfl

/-- What a bubble adds to the field of a pixel. -/
def fieldTurn (sine : Nat → Int) (t x y field i : Int) : Int :=
  field + (9000 + i * 700).tdiv (18 + (x - bubbleX sine t i) * (x - bubbleX sine t i) +
    (y - bubbleY sine t i) * (y - bubbleY sine t i))

theorem checkedField_eq {i : Int} (hi : Within true i i 0 6) {field : Int}
    (hfield : 0 ≤ field ∧ field ≤ 13200 * i) :
    checkedField (bubbles sine t) x y field i = some (fieldTurn sine t x y field i) ∧
      0 ≤ fieldTurn sine t x y field i ∧ fieldTurn sine t x y field i ≤ 13200 * (i + 1) := by
  obtain ⟨hbx, hby⟩ := within_bubble hsine ht hi
  have hdx := (hx.sub (hbx.var rfl)).mono (-320) 320
  have hdy := (hy.sub (hby.var rfl)).mono (-180) 180
  have hdivisor := ((Within.lit 18).add (hdx.var rfl).sq).add (hdy.var rfl).sq
  have hquotient := (((Within.lit 9000).add (hi.scale 700)).mono 0 13200).div hdivisor
  have hlow := hi.low_le rfl
  have hhigh := hi.le_high rfl
  have hbefore : Within true field field 0 79200 := .int hfield.1 (by omega)
  have hafter := hbefore.add hquotient
  refine ⟨?_, hafter.low_le rfl, ?_⟩
  · rw [checkedField, bind_of_eq (getElem?_bubbles hi)]
    dsimp only
    rw [hdx.bind rfl, hdy.bind rfl]
    exact hafter.eq rfl
  · exact (add_le_add hfield.2 (hquotient.le_high rfl)).trans_eq (by omega)

theorem checkedBubblesPixel_eq :
    checkedBubblesPixel sine (bubbles sine t) t x y = some (bubblesPixel sine t x y) := by
  obtain ⟨hloop, hlow, hhigh⟩ := @loop_eq Int (checkedField (bubbles sine t) x y)
    (fieldTurn sine t x y) 0 7 (fun i field => 0 ≤ field ∧ field ≤ 13200 * i) (by decide) (by decide)
    (fun i hi hi' field hfield =>
      checkedField_eq hsine ht hx hy (.int hi (Int.le_sub_one_of_lt hi')) hfield)
    0 ⟨le_rfl, le_rfl⟩
  have hfield := Within.int hlow hhigh
  have hwave := within_glow hsine (((hx.scale 8).sub (hy.scale 6)).add (ht.scale 18)) 5
  have hbright := Within.bitAnd (((hfield.scale 9).add (hwave.var rfl)).eq rfl) 255
  rw [checkedBubblesPixel, bind_of_eq hloop, hwave.bind rfl]
  exact ite_eq_some (fun _ => checkedMix_eq (.lit 1) (.lit 5) hbright rfl rfl rfl)
    fun _ => checkedMix_eq (.lit 8) (.lit 6) (hwave.var rfl) rfl rfl rfl

theorem checkedRibbonsPixel_eq :
    checkedRibbonsPixel sine t x y = some (ribbonsPixel sine t x y) := by
  have hwave := (Within.lit 90).add
    ((within_si hsine ((hx.scale 12).add (ht.scale 13))).shiftRight 5)
  have hwave2 := (Within.lit 90).add
    ((within_si hsine (((hx.scale 9).sub (ht.scale 17)).add (.lit 500))).shiftRight 4)
  have hd1 := ((hy.sub (hwave.var rfl)).mono (-200) 200).abs
  have hd2 := ((hy.sub (hwave2.var rfl)).mono (-200) 200).abs
  have hheight : Within true (logicalHeight : Int) (logicalHeight : Int) 180 180 :=
    .int (by decide) (by decide)
  have hbase := checkedMix_eq (.lit 3) (.lit 1) ((hy.scale 255).div hheight) rfl rfl rfl
  have hnear := checkedMix_eq (.lit 0) (.lit 2) ((hd1.var rfl).scale 30) rfl rfl rfl
  have hnear2 := checkedMix_eq (.lit 6) (.lit 2) ((hd2.var rfl).scale 45) rfl rfl rfl
  rw [checkedRibbonsPixel, hwave.bind rfl, hwave2.bind rfl, hd1.bind rfl, hd2.bind rfl,
    bind_of_eq hbase]
  rw [bind_of_eq (ite_eq_some (fun _ => hnear) fun _ => rfl)]
  exact ite_eq_some (fun _ => hnear2) fun _ => rfl

omit ht in
theorem checkedChromePixel_eq : checkedChromePixel sine x y = some (chromePixel sine x y) := by
  refine ite_eq_some (fun _ => ?_) fun hbelow => ?_
  · have hglow := within_glow hsine ((hx.scale 5).add (hy.scale 4)) 4
    rw [hglow.bind rfl]
    exact checkedMix_eq (.lit 8) (.lit 0) (hglow.var rfl) rfl rfl rfl
  · have hrow : Within true y y 95 179 := .int (Int.not_lt.mp hbelow) (hy.le_high rfl)
    have hz := hrow.sub (.lit 94)
    have hhorizon := Within.bitAnd (((hz.var rfl).scale 13).eq rfl) 31
    have hvan := (((hx.sub (.lit 160)).scale 90).mono (-14400) 14400).div
      ((hz.var rfl).add (.lit 8))
    have hvertical := (hvan.var rfl).abs.mod 42
    rw [hz.bind rfl, hhorizon.bind rfl, hvan.bind rfl, hvertical.bind rfl]
    exact ite_eq_some (fun _ => checkedPal_eq (.lit 2) rfl)
      fun _ => checkedMix_eq (.lit 6) (.lit 8) (hz.var rfl) rfl rfl rfl

theorem checkedSugarPixel_eq : checkedSugarPixel sine t x y = some (sugarPixel sine t x y) := by
  have ha := within_si hsine ((hx.scale 10).add (ht.scale 13))
  have hb := within_si hsine ((hy.scale 14).sub (ht.scale 9))
  have hc := within_si hsine (((hx.add hy).scale 7).add (ht.scale 5))
  have hv := ((((ha.var rfl).add (hb.var rfl)).add (hc.var rfl)).add (.lit 3072)).div (.lit 12)
  have hshift := (within_si hsine ((ht.scale 17).add (hx.scale 3))).shiftRight 7
  have hstripe := Within.bitAnd ((((hx.add hy).add hshift).shiftRight 3).eq rfl) 3
  have hfirst := ((hstripe.var rfl).add (.lit 0)).mod 5
  have hsecond := ((hstripe.var rfl).add (.lit 2)).mod 5
  rw [checkedSugarPixel, ha.bind rfl, hb.bind rfl, hc.bind rfl, hv.bind rfl, hstripe.bind rfl]
  exact checkedMix_eq hfirst hsecond (.bitAnd ((hv.var rfl).eq rfl) 255) rfl rfl rfl

end Pixels

/-- A row pass over rows of the buffer with a colour for each pixel. -/
theorem checkedRowPass_eq {y0 y1 : Int} (hy0 : 0 ≤ y0) (hy1 : y1 ≤ 180)
    {checked : Int → Int → Option UInt32} {pixel : Int → Int → UInt32}
    (hpixel : ∀ x y : Int, Within true x x 0 319 → Within true y y 0 179 →
      checked x y = some (pixel x y))
    (low : Image) : checkedRowPass y0 y1 checked low = some (rowPass y0 y1 pixel low) := by
  have hwidth : Within true (logicalWidth : Int) (logicalWidth : Int) 0 320 :=
    .int (by decide) (by decide)
  refine loop_eq_of_turn (by omega) (by omega) (fun y hy hy' low => ?_) low
  have hrow : Within true y y 0 179 := .int (by omega) (by omega)
  refine loop_eq_of_turn (by decide) (by decide) (fun x hx hx' low => ?_) low
  have hcolumn : Within true x x 0 319 := .int hx (Int.le_sub_one_of_lt hx')
  have hindex := (hrow.mul_nonneg hwidth).add hcolumn
  rw [bind_of_eq (hpixel x y hcolumn hrow), hindex.bind rfl]
  exact if_pos ⟨hindex.low_le rfl, (hindex.le_high rfl).trans_lt (by decide)⟩

theorem checkedRows_eq {sine : Nat → Int} (hsine : ∀ k < 2048, -1024 ≤ sine k ∧ sine k ≤ 1024)
    {t : Int} (ht : Within true t t 0 65535) {y0 y1 : Int} (hy0 : 0 ≤ y0) (hy1 : y1 ≤ 180)
    (which : SceneIndex) (low : Image) :
    checkedRows sine which y0 y1 t low = some (rowPass y0 y1 (scenePixel sine which t) low) := by
  match which with
  | 0 => exact checkedRowPass_eq hy0 hy1 (fun x y hx hy => checkedCandyPixel_eq hsine ht hx hy) low
  | 1 => exact checkedRowPass_eq hy0 hy1 (fun x y hx hy => checkedCheckerPixel_eq hsine ht hx hy) low
  | 2 =>
    rw [checkedRows, bind_of_eq (checkedBubbles_eq hsine ht)]
    exact checkedRowPass_eq hy0 hy1 (fun x y hx hy => checkedBubblesPixel_eq hsine ht hx hy) low
  | 3 => exact checkedRowPass_eq hy0 hy1 (fun x y hx hy => checkedRibbonsPixel_eq hsine ht hx hy) low
  | 4 => exact checkedRowPass_eq hy0 hy1 (fun x y hx hy => checkedChromePixel_eq hsine hx hy) low
  | 5 => exact checkedRowPass_eq hy0 hy1 (fun x y hx hy => checkedSugarPixel_eq hsine ht hx hy) low

end VitaLinuxPort
