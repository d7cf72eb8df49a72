import VitaLinuxPort.Proof.Scenes.RowArithmetic

/-!
# The arithmetic of the overlays

The shapes are drawn near the buffer, the texts are short and the scales are small, so that no
coordinate comes near the limits of the type.
-/

namespace VitaLinuxPort

open CExpression

variable {ok ok' : Bool} {e e' : CExpression} {v v' a b c d : Int}

section Lookup

theorem getElem?_eq_some_getD {α : Type} {l : List α} {i : Nat} (h : i < l.length) (default : α) :
    l[i]? = some (l.getD i default) := by
  rw [List.getD_eq_getElem _ _ h]
  exact List.getElem?_eq_getElem h

theorem checkedHeartAt_eq (hy : Within ok e v a b) (hx : Within ok' e' v' c d)
    (hindex : (ok && decide (0 ≤ a ∧ b ≤ 7)) = true)
    (hindex' : (ok' && decide (0 ≤ c ∧ d ≤ 7)) = true) :
    checkedHeartAt e e' = some (heartAt v v') := by
  obtain ⟨hok, ha, hb⟩ := of_condition hindex
  obtain ⟨hok', hc, hd⟩ := of_condition hindex'
  have hylow := ha.trans (hy.low_le hok)
  have hyhigh := (hy.le_high hok).trans hb
  have hxlow := hc.trans (hx.low_le hok')
  have hxhigh := (hx.le_high hok').trans hd
  have hshape : heartShape.length = 8 := rfl
  have hrows : ∀ row ∈ heartShape, row.length = 8 := by decide
  have hrow : v.toNat < heartShape.length := by omega
  have hcolumn : v'.toNat < (heartShape.getD v.toNat []).length := by
    rw [List.getD_eq_getElem _ _ hrow, hrows _ (List.getElem_mem hrow)]
    omega
  rw [checkedHeartAt, hy.bind hok, hx.bind hok', if_pos ⟨hylow, hxlow⟩,
    bind_of_eq (getElem?_eq_some_getD hrow [])]
  exact getElem?_eq_some_getD hcolumn '0'

/-- The border of the shape: its outermost columns and rows, and what has a gap beside or above it. -/
def Border (y x : Int) : Prop :=
  x = 0 ∨ x = 7 ∨ y = 0 ∨ y = 6 ∨ (x > 0 ∧ heartAt y (x - 1) = '0') ∨
    (x < 7 ∧ heartAt y (x + 1) = '0') ∨ (y > 0 ∧ heartAt (y - 1) x = '0')

instance (y x : Int) : Decidable (Border y x) := inferInstanceAs (Decidable (_ ∨ _))

theorem some_decide_or {p q : Prop} [Decidable p] [Decidable q] {step : Option Bool}
    (h : step = some (decide q)) : (if p then some true else step) = some (decide (p ∨ q)) := by
  by_cases hp : p
  · rw [if_pos hp, decide_eq_true (.inl hp)]
  · rw [if_neg hp, h, decide_eq_decide.mpr (or_iff_right hp).symm]

theorem gap_iff {p : Prop} [Decidable p] {cell : Char} :
    (if p then cell else '1') = '0' ↔ p ∧ cell = '0' := by
  split
  · next hp => exact (and_iff_right hp).symm
  · next hp => exact iff_of_false (by decide) (fun h => hp h.1)

theorem checkedBorder_eq {y x : Int} (hy : Within true y y 0 7) (hx : Within true x x 0 7) :
    checkedBorder y x = some (decide (Border y x)) := by
  have hleft : (if x > 0 then checkedHeartAt y (x - 1) else some '1')
      = some (if x > 0 then heartAt y (x - 1) else '1') := by
    refine ite_eq_some (fun hpos => ?_) fun _ => rfl
    have hx : Within true x x 1 7 := .int hpos (hx.le_high rfl)
    exact checkedHeartAt_eq hy (hx.sub (.lit 1)) rfl rfl
  have hright : (if x < 7 then checkedHeartAt y (x + 1) else some '1')
      = some (if x < 7 then heartAt y (x + 1) else '1') := by
    refine ite_eq_some (fun hlt => ?_) fun _ => rfl
    have hx : Within true x x 0 6 := .int (hx.low_le rfl) (Int.le_sub_one_of_lt hlt)
    exact checkedHeartAt_eq hy (hx.add (.lit 1)) rfl rfl
  have habove : (if y > 0 then checkedHeartAt (y - 1) x else some '1')
      = some (if y > 0 then heartAt (y - 1) x else '1') := by
    refine ite_eq_some (fun hpos => ?_) fun _ => rfl
    have hy : Within true y y 1 7 := .int hpos (hy.le_high rfl)
    exact checkedHeartAt_eq (hy.sub (.lit 1)) hx rfl rfl
  rw [checkedBorder, bind_of_eq hleft, bind_of_eq hright, bind_of_eq habove]
  refine (some_decide_or (some_decide_or (some_decide_or rfl))).trans
    (congrArg some (decide_eq_decide.mpr ?_))
  rw [gap_iff, gap_iff, gap_iff, Border]
  simp only [or_assoc]

theorem checkedFontIndex_eq (char : Char) :
    checkedFontIndex char = some (fontIndex char : Int) ∧ fontIndex char < 37 := by
  rw [checkedFontIndex, fontIndex]
  split
  · next hletter =>
    have hlow : 'A'.toNat ≤ char.toNat := hletter.1
    have hhigh : char.toNat ≤ 'Z'.toNat := hletter.2
    have hA : 'A'.toNat = 65 := rfl
    have hZ : 'Z'.toNat = 90 := rfl
    have hcode : Within true (char.toNat : Int) (char.toNat : Int) 65 90 := .int (by omega) (by omega)
    have hbase : Within true ('A'.toNat : Int) ('A'.toNat : Int) 65 65 := .int (by omega) (by omega)
    exact ⟨((hcode.sub hbase).eq rfl).trans (congrArg some (Int.ofNat_sub hlow).symm), by omega⟩
  · split
    · next hdigit =>
      have hlow : '0'.toNat ≤ char.toNat := hdigit.1
      have hhigh : char.toNat ≤ '9'.toNat := hdigit.2
      have h0 : '0'.toNat = 48 := rfl
      have h9 : '9'.toNat = 57 := rfl
      have hcode : Within true (char.toNat : Int) (char.toNat : Int) 48 57 := .int (by omega) (by omega)
      have hbase : Within true ('0'.toNat : Int) ('0'.toNat : Int) 48 48 := .int (by omega) (by omega)
      have hindex : (26 : Int) + char.toNat - '0'.toNat = (26 + char.toNat - '0'.toNat : Nat) := by
        omega
      exact ⟨((((Within.lit 26).add hcode).sub hbase).eq rfl).trans (congrArg some hindex), by omega⟩
    · exact ⟨rfl, by decide⟩

/-- `FONT` has 37 rows of 7. -/
theorem length_font : font.length = 37 ∧ ∀ glyph ∈ font, glyph.length = 7 := by
  decide

theorem checkedFontBit_eq (char : Char) {yy xx : Int} (hyy : Within true yy yy 0 6)
    (hxx : Within true xx xx 0 4) : checkedFontBit char yy xx = some (fontBit char yy xx) := by
  obtain ⟨hindex, hlt⟩ := checkedFontIndex_eq char
  obtain ⟨hfont, hglyphs⟩ := length_font
  have hcount := (Within.lit 4).sub hxx
  have hrow := hyy.low_le rfl
  have hrow' := hyy.le_high rfl
  have hglyph : fontIndex char < font.length := hfont ▸ hlt
  have hbit : yy.toNat < (font.getD (fontIndex char) []).length := by
    rw [List.getD_eq_getElem _ _ hglyph, hglyphs _ (List.getElem_mem hglyph)]
    omega
  rw [checkedFontBit, bind_of_eq hindex, hcount.bind rfl, if_pos ⟨Int.natCast_nonneg _, hrow,
    hcount.low_le rfl, (hcount.le_high rfl).trans_lt (by decide)⟩, Int.toNat_natCast,
    bind_of_eq (getElem?_eq_some_getD hglyph []), bind_of_eq (getElem?_eq_some_getD hbit 0)]
  rfl

end Lookup

/-- A coordinate on the buffer or near it. -/
abbrev Near (x : Int) : Prop := Within true x x (-1000) 1000

/-- A scale or a radius. -/
abbrev Small (s : Int) : Prop := Within true s s 0 10

theorem CExpression.Within.near (h : Within ok e v a b)
    (hok : (ok && decide (-1000 ≤ a ∧ b ≤ 1000)) = true) : Near v :=
  (h.mono (-1000) 1000).var hok

theorem CExpression.Within.small (h : Within ok e v a b)
    (hok : (ok && decide (0 ≤ a ∧ b ≤ 10)) = true) : Small v :=
  (h.mono 0 10).var hok

section Drawing

variable [Target] {okw okh : Bool} {f g : CExpression} {w z low high low' high' : Int}
  {canvas : CartCanvas} {color : UInt32}

theorem checkedPx_eq_some (hx : Within ok e v a b) (hy : Within ok' e' v' c d)
    (hok : ok = true) (hok' : ok' = true) :
    checkedPx canvas e e' color = some (cartCanvasPx canvas v v' color) :=
  (hx.bind hok _).trans (hy.bind hok' _)

theorem checkedCircle_eq_some (hx : Within ok e v a b) (hy : Within ok' e' v' c d)
    (hr : Within okw f w low high) (hok : ok = true) (hok' : ok' = true) (hokw : okw = true) :
    checkedCircle canvas e e' f color = some (cartCanvasCircle canvas v v' w color) :=
  ((hx.bind hok _).trans (hy.bind hok' _)).trans (hr.bind hokw _)

theorem checkedRect_eq_some (hx : Within ok e v a b) (hy : Within ok' e' v' c d)
    (hw : Within okw f w low high) (hh : Within okh g z low' high') (hok : ok = true)
    (hok' : ok' = true) (hokw : okw = true) (hokh : okh = true) :
    checkedRect canvas e e' f g color = some (cartCanvasRect canvas v v' w z color) :=
  (((hx.bind hok _).trans (hy.bind hok' _)).trans (hw.bind hokw _)).trans (hh.bind hokh _)

variable {cx cy s : Int} (hcx : Near cx) (hcy : Near cy) (hs : Small s)
include hcx hcy hs

theorem checkedHeartCell_eq (edge : UInt32) {y x : Int} (hy : Within true y y 0 7)
    (hx : Within true x x 0 7) :
    checkedHeartCell cx cy s color edge canvas y x =
      some (if heartAt y x = '1' then
        cartCanvasRect canvas (cx + (x - 4) * s) (cy + (y - 3) * s) s s
          (if Border y x then edge else color) else canvas) := by
  have hleft := hcx.add (((hx.sub (.lit 4)).mono (-4) 4).mul (hs.mono (-10) 10))
  have htop := hcy.add (((hy.sub (.lit 3)).mono (-4) 4).mul (hs.mono (-10) 10))
  rw [checkedHeartCell, bind_of_eq (checkedHeartAt_eq hy hx rfl rfl),
    bind_of_eq (checkedBorder_eq hy hx)]
  refine ite_eq_some (fun _ => ?_) fun _ => rfl
  rw [checkedRect_eq_some hleft htop hs hs rfl rfl rfl rfl]
  simp only [decide_eq_true_eq]

theorem checkedHeart_eq (edge : UInt32) :
    checkedHeart canvas cx cy s color edge = some (heart canvas cx cy s color edge) := by
  have htwice := (Within.lit 2).mul_nonneg hs
  rw [checkedHeart]
  refine (bind_of_eq (loop_eq_of_turn (by decide) (by decide) (fun y hy hy' canvas =>
    loop_eq_of_turn (by decide) (by decide) (fun x hx hx' canvas =>
      checkedHeartCell_eq hcx hcy hs edge (.int hy (Int.le_sub_one_of_lt hy'))
        (.int hx (Int.le_sub_one_of_lt hx'))) canvas) canvas) _).trans ?_
  exact ite_eq_some (fun _ => checkedRect_eq_some (hcx.sub htwice) (hcy.sub htwice) hs hs
    rfl rfl rfl rfl) fun _ => rfl

theorem checkedStar_eq : checkedStar canvas cx cy s color = some (star canvas cx cy s color) := by
  have hfirst := hs.neg
  have hlow := hs.low_le rfl
  have hhigh := hs.le_high rfl
  have hbound := (hs.div (.lit 2)).add (.lit 1)
  rw [checkedStar, hfirst.bind rfl]
  refine loop_eq_of_turn (by omega) (by omega) (fun i hi hi' canvas => ?_) canvas
  have hi : Within true i i (-10) 10 := .int (by omega) (by omega)
  rw [bind_of_eq (checkedPx_eq_some (hcx.add hi) hcy rfl rfl),
    bind_of_eq (checkedPx_eq_some hcx (hcy.add hi) rfl rfl), hi.abs.bind rfl, hbound.bind rfl]
  refine ite_eq_some (fun _ => ?_) fun _ => rfl
  rw [bind_of_eq (checkedPx_eq_some (hcx.add hi) (hcy.add hi) rfl rfl)]
  exact checkedPx_eq_some (hcx.add hi) (hcy.sub hi) rfl rfl

theorem checkedFlower_eq (center : UInt32) :
    checkedFlower canvas cx cy s color center = some (flower canvas cx cy s color center) := by
  rw [checkedFlower, bind_of_eq (checkedCircle_eq_some (hcx.sub hs) hcy hs rfl rfl rfl),
    bind_of_eq (checkedCircle_eq_some (hcx.add hs) hcy hs rfl rfl rfl),
    bind_of_eq (checkedCircle_eq_some hcx (hcy.sub hs) hs rfl rfl rfl),
    bind_of_eq (checkedCircle_eq_some hcx (hcy.add hs) hs rfl rfl rfl)]
  exact checkedCircle_eq_some hcx hcy hs rfl rfl rfl

omit hcx hs in
theorem checkedGlyph_eq {x : Int} (hx : Within true x x (-1000) 3000) (hs : Within true s s 1 10)
    (char : Char) (canvas : CartCanvas) :
    checkedGlyph canvas x cy char s color =
      some ((Int.range 0 7).foldl (fun canvas yy => (Int.range 0 5).foldl (fun canvas xx =>
        if fontBit char yy xx then cartCanvasRect canvas (x + xx * s) (cy + yy * s) s s color
        else canvas) canvas) canvas) := by
  refine loop_eq_of_turn (by decide) (by decide) (fun yy hyy hyy' canvas => ?_) canvas
  refine loop_eq_of_turn (by decide) (by decide) (fun xx hxx hxx' canvas => ?_) canvas
  have hyy : Within true yy yy 0 6 := .int hyy (Int.le_sub_one_of_lt hyy')
  have hxx : Within true xx xx 0 4 := .int hxx (Int.le_sub_one_of_lt hxx')
  rw [bind_of_eq (checkedFontBit_eq char hyy hxx)]
  exact ite_eq_some (fun _ => checkedRect_eq_some (hx.add (hxx.mul_nonneg hs))
    (hcy.add (hyy.mul_nonneg hs)) hs hs rfl rfl rfl rfl) fun _ => rfl

omit hcx hs in
/-- The text ends before 3000. -/
theorem checkedTextGlyphs_eq {x : Int} (hs : Within true s s 1 10) {text : CString}
    (hx : -1000 ≤ x) (hend : x + 60 * text.length ≤ 2900) (canvas : CartCanvas) :
    checkedTextGlyphs canvas x cy text s color = some (textGlyphs canvas x cy text s color) := by
  induction text generalizing x canvas with
  | nil => rfl
  | cons char rest ih =>
    rw [List.length_cons] at hend
    have hplace : Within true x x (-1000) 3000 := .int hx (by omega)
    have hnext : Within true (x + 6 * s : CExpression) (x + 6 * s) (-1000) 3060 :=
      hplace.add ((Within.lit 6).mul_nonneg hs)
    have hlow := hs.low_le rfl
    have hhigh := hs.le_high rfl
    rw [checkedTextGlyphs, bind_of_eq (ite_eq_some (fun _ => rfl)
      fun _ => checkedGlyph_eq hcy hplace hs char canvas), hnext.bind rfl, textGlyphs]
    exact ih (by omega) (by omega) _

omit hcx hcy hs in
theorem checkedText_eq {x y : Int} (hx : Within true x x (-900) 1600)
    (hy : Within true y y (-900) 900) {text : CString} (hlength : text.length ≤ 20)
    (hs : Within true s s 1 10) (shadow : UInt32) (canvas : CartCanvas) :
    checkedText canvas x y text s color shadow
      = some (VitaLinuxPort.text canvas x y text s color shadow) := by
  have hleft := hx.add hs
  have htop := hy.add hs
  have hlow := hx.low_le rfl
  have hhigh := hx.le_high rfl
  have hshadow : (if shadow ≠ 0 then do
        let left ← (x + s : CExpression)
        let top ← (y + s : CExpression)
        checkedTextGlyphs canvas left top text s shadow
      else some canvas) =
      some (if shadow ≠ 0 then textGlyphs canvas (x + s) (y + s) text s shadow else canvas) := by
    refine ite_eq_some (fun _ => ?_) fun _ => rfl
    rw [hleft.bind rfl, htop.bind rfl]
    have hstart := (hleft.low_le rfl).trans' (by decide : (-1000 : Int) ≤ -900 + 1)
    have hend := hleft.le_high rfl
    exact checkedTextGlyphs_eq (htop.near rfl) hs hstart (by omega) canvas
  rw [checkedText, bind_of_eq hshadow]
  exact checkedTextGlyphs_eq (hy.near rfl) hs (by omega) (by omega) _

omit hcx hcy hs in
theorem checkedTextCenter_eq {text : CString} (hlength : text.length ≤ 20) {y : Int}
    (hy : Within true y y (-900) 900) (hs : Within true s s 1 10) (shadow : UInt32)
    (canvas : CartCanvas) :
    checkedTextCenter canvas y text s color shadow
      = some (textCenter canvas y text s color shadow) := by
  have hcount : Within true (text.length : Int) text.length 0 20 :=
    .int (Int.natCast_nonneg _) (by omega)
  have hfits : Fits 0 20 := by decide
  have hfit : CIntType.int32.fit text.length = some (text.length : Int) :=
    CIntType.fit_of_holds (holds_of_fits hfits (hcount.low_le rfl) (hcount.le_high rfl))
  have hlogical : Within true (logicalWidth : Int) (logicalWidth : Int) 320 320 :=
    .int (by decide) (by decide)
  have hwidth := (((hcount.scale 6).sub (.lit 1)).mono (-120) 120).mul (hs.mono (-10) 10)
  have hstart := ((hlogical.sub (hwidth.var rfl)).mono (-900) 1600).div (.lit 2)
  rw [checkedTextCenter, bind_of_eq hfit, hwidth.bind rfl, hstart.bind rfl]
  exact checkedText_eq (hstart.var rfl) hy hlength hs shadow canvas

omit hcx hcy hs in
theorem checkedCaption_eq (text : CString) (y scale : Int) (hcolor : Within ok e v a b)
    (hindex : (ok && decide (0 ≤ a ∧ b ≤ 9)) = true)
    (hplace : (-900 ≤ y ∧ y ≤ 900) ∧ (1 ≤ scale ∧ scale ≤ 10) ∧ text.length ≤ 20) :
    checkedCaption canvas y text scale e
      = some (textCenter canvas y text scale (pal v) (pal 8)) := by
  obtain ⟨hy, hscale, hlength⟩ := hplace
  rw [checkedCaption, bind_of_eq (checkedPal_eq hcolor hindex),
    bind_of_eq (checkedPal_eq (.lit 8) rfl)]
  exact checkedTextCenter_eq hlength (.int hy.1 hy.2) (.int hscale.1 hscale.2) _ canvas

end Drawing

section Unsigned

theorem signed_eq (u : UInt32) : signed u = (u.toNat : Int).bmod (2 ^ 32) :=
  BitVec.toInt_eq_toNat_bmod u.toBitVec

theorem signed_of_lt {u : UInt32} (h : u.toNat < 1000) : signed u = u.toNat := by
  rw [signed_eq, Int.bmod_def]
  split
  · omega
  · omega

/-- The difference of small values wraps below zero, and the `int` it is assigned to is negative. -/
theorem signed_sub {u k : UInt32} (hu : u.toNat < 1000) (hk : k.toNat < 1000) :
    signed (u - k) = u.toNat - k.toNat := by
  rw [signed_eq, UInt32.toNat_sub, Int.bmod_def]
  split
  · omega
  · omega

theorem toNat_mod_lt (u : UInt32) {n : UInt32} (hpos : 0 < n.toNat) : (u % n).toNat < n.toNat := by
  rw [UInt32.toNat_mod]
  exact Nat.mod_lt _ hpos

/-- A remainder is a coordinate. -/
theorem near_mod (u n : UInt32) (hn : 0 < n.toNat ∧ n.toNat ≤ 1000) : Near (signed (u % n)) := by
  obtain ⟨hpos, hn⟩ := hn
  have hlt := toNat_mod_lt u hpos
  rw [signed_of_lt (hlt.trans_le hn)]
  exact .int (by omega) (by omega)

theorem near_mod_sub (u n k : UInt32) (hn : 0 < n.toNat ∧ n.toNat ≤ 1000) (hk : k.toNat < 1000) :
    Near (signed (u % n - k)) := by
  obtain ⟨hpos, hn⟩ := hn
  have hlt := toNat_mod_lt u hpos
  rw [signed_sub (hlt.trans_le hn) hk]
  exact .int (by omega) (by omega)

end Unsigned

theorem within_indicator (p : Prop) [Decidable p] :
    Within true (some (if p then 1 else 0)) (if p then 1 else 0) 0 1 := by
  split
  · exact .int (by decide) (by decide)
  · exact .int (by decide) (by decide)

section Overlays

variable [Target] {canvas : CartCanvas} {t : Int} (ht : Within true t t 0 65535)

include ht in
theorem checkedOverlayCandy_eq :
    checkedOverlayCandy canvas t = some (overlayCandy canvas t) := by
  rw [checkedOverlayCandy]
  refine (bind_of_eq (@loop_eq_of_turn _ _ ?exact _ _ (by decide) (by decide)
    (fun i hi hi' canvas => ?turn) canvas) _).trans ?rest
  case turn =>
    have hi : Within true i i 0 17 := .int hi (Int.le_sub_one_of_lt hi')
    have hmove := ht.mul_nonneg ((Within.lit 1).add (hi.mod 3))
    have hoffset := hi.scale 17
    have hradius := (Within.lit 2).add (hi.mod 3)
    dsimp only
    rw [hmove.bind rfl, hoffset.bind rfl, hradius.bind rfl, bind_of_eq (checkedPal_eq (.lit 2) rfl)]
    exact checkedStar_eq (near_mod _ 320 (by decide)) (near_mod _ 180 (by decide))
      (hradius.small rfl)
  case rest =>
    have hx : Near 160 := .int (by decide) (by decide)
    have hy : Near 82 := .int (by decide) (by decide)
    have hs : Small 5 := .int (by decide) (by decide)
    rw [bind_of_eq (checkedPal_eq (.lit 0) rfl), bind_of_eq (checkedPal_eq (.lit 8) rfl),
      bind_of_eq (checkedHeart_eq hx hy hs _)]
    exact (checkedCaption_eq "CANDY VORTEX".toList 139 3 (.lit 2) rfl (by decide)).trans rfl

include ht in
theorem checkedOverlayGirlMode_eq :
    checkedOverlayGirlMode canvas t = some (overlayGirlMode canvas t) := by
  rw [checkedOverlayGirlMode]
  refine (bind_of_eq (@loop_eq_of_turn _ _ ?exact _ _ (by decide) (by decide)
    (fun i hi hi' canvas => ?turn) canvas) _).trans ?rest
  case turn =>
    have hi : Within true i i 0 23 := .int hi (Int.le_sub_one_of_lt hi')
    have hmove := ht.mul_nonneg ((Within.lit 2).add (hi.mod 4))
    have hthird := hi.mod 3
    have hs (third : Int) := (Within.lit 1).add (within_indicator (third = 0))
    dsimp only
    rw [hmove.bind rfl, hthird.bind rfl, (hs _).bind rfl, bind_of_eq (checkedPal_eq (hi.mod 5) rfl),
      bind_of_eq (checkedPal_eq (.lit 8) rfl)]
    exact checkedHeart_eq (near_mod_sub _ 340 10 (by decide) (by decide))
      (near_mod_sub _ 210 15 (by decide) (by decide)) ((hs _).small rfl) _
  case rest =>
    rw [bind_of_eq (checkedCaption_eq "GIRL MODE".toList 72 5 (.lit 2) rfl (by decide))]
    exact (checkedCaption_eq "MAXIMUM".toList 119 4 (.lit 0) rfl (by decide)).trans rfl

theorem checkedOverlayBubblegum_eq :
    checkedOverlayBubblegum canvas = some (overlayBubblegum canvas) := by
  rw [checkedOverlayBubblegum]
  refine (bind_of_eq (@loop_eq_of_turn _ _ ?exact _ _ (by decide) (by decide)
    (fun i hi hi' canvas => ?turn) canvas) _).trans ?rest
  case turn =>
    have hi : Within true i i 0 19 := .int hi (Int.le_sub_one_of_lt hi')
    have hradius := (Within.lit 1).add (hi.mod 3)
    dsimp only
    rw [hradius.bind rfl, bind_of_eq (checkedPal_eq (.lit 2) rfl)]
    exact checkedStar_eq (near_mod _ 320 (by decide)) (near_mod _ 180 (by decide))
      (hradius.small rfl)
  case rest =>
    rw [bind_of_eq (checkedCaption_eq "BUBBLEGUM".toList 14 5 (.lit 2) rfl (by decide))]
    exact (checkedCaption_eq "OVERDRIVE".toList 145 4 (.lit 0) rfl (by decide)).trans rfl

section Sine

variable {sine : Nat → Int} (hsine : ∀ k < 2048, -1024 ≤ sine k ∧ sine k ≤ 1024)
include hsine ht

/-- A butterfly, as the loop of `overlayButterflyRiot` draws it. -/
def butterfly (sine : Nat → Int) (t : Int) (canvas : CartCanvas) (i : Int) : CartCanvas :=
  let x := (i * 29 + t * (i.tmod 3 + 1)).tmod 350 - 15
  let y := 70 + ((si sine (t * (8 + i) + i * 193) * 55) >>> (10 : Nat))
  let left := pal ((i + 0).tmod 5)
  let right := pal ((i + 3).tmod 5)
  let canvas := cartCanvasCircle canvas (x - 4) (y - 2) 3 left
  let canvas := cartCanvasCircle canvas (x + 4) (y - 2) 3 right
  let canvas := cartCanvasCircle canvas (x - 3) (y + 3) 2 left
  let canvas := cartCanvasCircle canvas (x + 3) (y + 3) 2 right
  let canvas := cartCanvasRect canvas (x - 1) (y - 4) 2 9 (pal 8)
  if (i + t.tdiv 3).tmod 4 = 0 then star canvas (x - 10) (y + 5) 2 (pal 2) else canvas

theorem checkedButterfly_eq {i : Int} (hi : Within true i i 0 23) :
    checkedButterfly sine t canvas i = some (butterfly sine t canvas i) := by
  have hsum := (hi.scale 29).add (ht.mul_nonneg ((hi.mod 3).add (.lit 1)))
  have hx := ((hsum.mod 350).sub (.lit 15)).mono (-15) 350
  have hangle := (ht.mul_nonneg ((Within.lit 8).add hi)).add (hi.scale 193)
  have hy := ((Within.lit 70).add (((within_si hsine hangle).scale 55).shiftRight 10)).mono 0 200
  have hleft := checkedPal_eq ((hi.add (.lit 0)).mod 5) rfl
  have hright := checkedPal_eq ((hi.add (.lit 3)).mod 5) rfl
  have hturn := (hi.add (ht.div (.lit 3))).mod 4
  have hcx := (hx.var rfl).sub (.lit 10)
  have hcy := (hy.var rfl).add (.lit 5)
  have hx' := hx.var rfl
  have hy' := hy.var rfl
  have hradius : Small 2 := .int (by decide) (by decide)
  rw [checkedButterfly, hx.bind rfl, hy.bind rfl, bind_of_eq hleft, bind_of_eq hright,
    bind_of_eq (checkedCircle_eq_some (hx'.sub (.lit 4)) (hy'.sub (.lit 2)) (.lit 3) rfl rfl rfl),
    bind_of_eq (checkedCircle_eq_some (hx'.add (.lit 4)) (hy'.sub (.lit 2)) (.lit 3) rfl rfl rfl),
    bind_of_eq (checkedCircle_eq_some (hx'.sub (.lit 3)) (hy'.add (.lit 3)) (.lit 2) rfl rfl rfl),
    bind_of_eq (checkedCircle_eq_some (hx'.add (.lit 3)) (hy'.add (.lit 3)) (.lit 2) rfl rfl rfl),
    bind_of_eq (checkedPal_eq (.lit 8) rfl),
    bind_of_eq (checkedRect_eq_some (hx'.sub (.lit 1)) (hy'.sub (.lit 4)) (.lit 2) (.lit 9)
      rfl rfl rfl rfl), hturn.bind rfl]
  refine ite_eq_some (fun _ => ?_) fun _ => rfl
  rw [hcx.bind rfl, hcy.bind rfl, bind_of_eq (checkedPal_eq (.lit 2) rfl)]
  exact checkedStar_eq (hcx.near rfl) (hcy.near rfl) hradius

theorem checkedOverlayButterflyRiot_eq :
    checkedOverlayButterflyRiot sine canvas t = some (overlayButterflyRiot sine canvas t) := by
  have hradius : Small 2 := .int (by decide) (by decide)
  have hbutterflies := @loop_eq_of_turn _ (checkedButterfly sine t) (butterfly sine t) 0 24
    (by decide) (by decide) (fun i hi hi' canvas =>
      checkedButterfly_eq ht hsine (.int hi (Int.le_sub_one_of_lt hi'))) canvas
  rw [checkedOverlayButterflyRiot, bind_of_eq hbutterflies]
  refine (bind_of_eq (@loop_eq_of_turn _ _ ?exact _ _ (by decide) (by decide)
    (fun i hi hi' canvas => ?turn) _) _).trans ?rest
  case turn =>
    have hi : Within true i i 0 11 := .int hi (Int.le_sub_one_of_lt hi')
    have hx := (((hi.scale 41).add ht).mod 340).sub (.lit 10)
    have hy := (Within.lit 20).add ((hi.scale 23).mod 140)
    rw [hx.bind rfl, hy.bind rfl, bind_of_eq (checkedPal_eq ((hi.add (.lit 1)).mod 5) rfl),
      bind_of_eq (checkedPal_eq (.lit 2) rfl)]
    exact checkedFlower_eq (hx.near rfl) (hy.near rfl) hradius _
  case rest =>
    exact (checkedCaption_eq "BUTTERFLY RIOT".toList 143 3 (.lit 2) rfl (by decide)).trans rfl

/-- A point of the ball, as the inner loop of `overlayHyperdrive` draws it. -/
def ballPoint (cx cy r y : Int) (canvas : CartCanvas) (x : Int) : CartCanvas :=
  if x * x + y * y ≤ r * r then
    let band := ((y + r) * 10).tdiv (2 * r + 1)
    cartCanvasPx canvas (cx + x) (cy + y) (pal (band.tmod 8))
  else canvas

omit ht hsine in
theorem checkedBallPoint_eq {cx cy y x : Int} (hcx : Near cx) (hcy : Near cy)
    (hy : Within true y y (-39) 39) (hx : Within true x x (-39) 39) :
    checkedBallPoint cx cy 39 y canvas x = some (ballPoint cx cy 39 y canvas x) := by
  have hr : Within true (39 : Int) (39 : Int) 39 39 := .int (by decide) (by decide)
  have hdistance := hx.sq.add hy.sq
  have hlimit := (hr.mono (-39) 39).sq
  have hband := ((hy.add hr).scale 10).div (((Within.lit 2).mul_nonneg hr).add (.lit 1))
  rw [checkedBallPoint, hdistance.bind rfl, hlimit.bind rfl]
  refine ite_eq_some (fun _ => ?_) fun _ => rfl
  rw [hband.bind rfl, bind_of_eq (checkedPal_eq ((hband.var rfl).mod 8) rfl)]
  exact checkedPx_eq_some (hcx.add hx) (hcy.add hy) rfl rfl

theorem checkedOverlayHyperdrive_eq :
    checkedOverlayHyperdrive sine canvas t = some (overlayHyperdrive sine canvas t) := by
  have hcx := (Within.lit 160).add (((within_si hsine (ht.scale 9)).scale 28).shiftRight 10)
  have hcy := (Within.lit 67).add (((within_si hsine (ht.scale 13)).scale 9).shiftRight 10)
  have hr : Within true (39 : Int) (39 : Int) 39 39 := .int (by decide) (by decide)
  have hcx' := hcx.var rfl
  have hcy' := hcy.var rfl
  have hstarX := hcx'.sub (.lit 17)
  have hstarY := hcy'.sub (.lit 18)
  have hradius : Small 6 := .int (by decide) (by decide)
  rw [checkedOverlayHyperdrive, hcx.bind rfl, hcy.bind rfl]
  dsimp only
  rw [hr.neg.bind rfl]
  refine (bind_of_eq (@loop_eq_of_turn _ _ ?ball _ _ (by decide) (by decide)
    (fun y hy hy' canvas => ?turn) canvas) _).trans ?rest
  case turn =>
    have hy : Within true y y (-39) 39 := .int hy (Int.le_sub_one_of_lt hy')
    exact @loop_eq_of_turn _ _ (ballPoint _ _ 39 y) (-39) 40 (by decide) (by decide)
      (fun x hx hx' canvas => checkedBallPoint_eq (hcx'.near rfl) (hcy'.near rfl) hy
        (.int hx (Int.le_sub_one_of_lt hx'))) canvas
  case rest =>
    rw [bind_of_eq (checkedCircle_eq_some (hcx'.sub (.lit 13)) (hcy'.sub (.lit 15)) (.lit 7)
        rfl rfl rfl), hstarX.bind rfl, hstarY.bind rfl,
      bind_of_eq (checkedStar_eq (hstarX.near rfl) (hstarY.near rfl) hradius),
      bind_of_eq (checkedCaption_eq "SHE HER".toList 11 6 (.lit 2) rfl (by decide))]
    exact (checkedCaption_eq "HYPERDRIVE".toList 143 4 (.lit 0) rfl (by decide)).trans rfl

end Sine

/-- A shape, as the loop of `overlayTooMuch` draws it. -/
def shape (canvas : CartCanvas) (i : Int) : CartCanvas :=
  let r := rng32 (unsigned i * 7331)
  let x := signed (r % 320)
  let y := signed ((r >>> 10) % 180)
  let s := 1 + i.tmod 3
  if i.tmod 3 = 0 then heart canvas x y s (pal (i.tmod 5)) (pal 8)
  else if i.tmod 3 = 1 then flower canvas x y (2 + s) (pal (i.tmod 5)) (pal 2)
  else star canvas x y (2 + s) (pal 2)

theorem checkedOverlayTooMuch_eq :
    checkedOverlayTooMuch canvas = some (overlayTooMuch canvas) := by
  rw [checkedOverlayTooMuch]
  refine (bind_of_eq (@loop_eq_of_turn _ _ shape _ _ (by decide) (by decide)
    (fun i hi hi' canvas => ?turn) canvas) _).trans ?rest
  case turn =>
    have hi : Within true i i 0 34 := .int hi (Int.le_sub_one_of_lt hi')
    have hx := near_mod (rng32 (unsigned i * 7331)) 320 (by decide)
    have hy := near_mod (rng32 (unsigned i * 7331) >>> 10) 180 (by decide)
    have hthird := hi.mod 3
    have hs := (Within.lit 1).add hthird
    have hsize := (Within.lit 2).add (hs.var rfl)
    dsimp only
    rw [hthird.bind rfl, hs.bind rfl]
    refine ite_eq_some (fun _ => ?heart) fun _ => ?other
    case heart =>
      rw [bind_of_eq (checkedPal_eq (hi.mod 5) rfl), bind_of_eq (checkedPal_eq (.lit 8) rfl)]
      exact checkedHeart_eq hx hy (hs.small rfl) _
    rw [hsize.bind rfl]
    refine ite_eq_some (fun _ => ?flower) fun _ => ?star
    case flower =>
      rw [bind_of_eq (checkedPal_eq (hi.mod 5) rfl), bind_of_eq (checkedPal_eq (.lit 2) rfl)]
      exact checkedFlower_eq hx hy (hsize.small rfl) _
    case star =>
      rw [bind_of_eq (checkedPal_eq (.lit 2) rfl)]
      exact checkedStar_eq hx hy (hsize.small rfl)
  case rest =>
    rw [bind_of_eq (checkedCaption_eq "TOO MUCH".toList 54 6 (.lit 2) rfl (by decide))]
    exact (checkedCaption_eq "IS ENOUGH".toList 104 5 (.lit 9) rfl (by decide)).trans rfl

theorem checkedDots_eq (which : SceneIndex) :
    checkedDots canvas which = some ((Int.range 0 6).foldl (fun canvas i =>
      cartCanvasCircle canvas (145 + i * 6) 171 (if i = which then 2 else 1)
        (if i = which then pal 2 else pal 8)) canvas) := by
  refine loop_eq_of_turn (by decide) (by decide) (fun i hi hi' canvas => ?_) canvas
  have hi : Within true i i 0 5 := .int hi (Int.le_sub_one_of_lt hi')
  have hradius := Within.ite (p := i = which) (.lit 2) (.lit 1)
  have hcolor := checkedPal_eq (Within.ite (p := i = which) (.lit 2) (.lit 8)) rfl
  rw [apply_ite pal] at hcolor
  rw [bind_of_eq hcolor]
  exact checkedCircle_eq_some ((Within.lit 145).add (hi.scale 6)) (.lit 171) hradius rfl rfl rfl

include ht in
theorem checkedOverlay_eq {sine : Nat → Int} (hsine : ∀ k < 2048, -1024 ≤ sine k ∧ sine k ≤ 1024)
    (which : SceneIndex) :
    checkedOverlay sine canvas which t = some (overlay sine canvas which t) := by
  unfold checkedOverlay overlay
  split
  · exact (bind_of_eq (checkedOverlayCandy_eq ht) _).trans (checkedDots_eq 0)
  · exact (bind_of_eq (checkedOverlayGirlMode_eq ht) _).trans (checkedDots_eq 1)
  · exact (bind_of_eq checkedOverlayBubblegum_eq _).trans (checkedDots_eq 2)
  · exact (bind_of_eq (checkedOverlayButterflyRiot_eq ht hsine) _).trans (checkedDots_eq 3)
  · exact (bind_of_eq (checkedOverlayHyperdrive_eq ht hsine) _).trans (checkedDots_eq 4)
  · exact (bind_of_eq checkedOverlayTooMuch_eq _).trans (checkedDots_eq 5)

end Overlays

section Rendering

theorem within_legacyFramePhase (frame : UInt64) :
    Within true (CIntType.int32.fit (frame % 65536).toNat) (legacyFramePhase frame) 0 65535 := by
  have hlt : (frame % 65536).toNat < 65536 := by
    rw [UInt64.toNat_mod]
    exact Nat.mod_lt _ (by decide)
  have hlow : 0 ≤ legacyFramePhase frame := Int.natCast_nonneg _
  have hhigh : legacyFramePhase frame ≤ 65535 := by
    rw [legacyFramePhase]
    omega
  have hfits : Fits 0 65535 := by decide
  exact fun _ => ⟨CIntType.fit_of_holds (holds_of_fits hfits hlow hhigh), hlow, hhigh⟩

variable [Target]

/-- Every step of a row pass and of an overlay has a result, and together they are what is drawn. -/
theorem checkedRenderLegacyScene_eq (sine : Nat → Int)
    (hsine : ∀ k < 2048, -1024 ≤ sine k ∧ sine k ≤ 1024) (context : CartSceneRenderContext)
    (hstart : 0 ≤ context.rowStart) (hend : context.rowEnd ≤ 180) (which : SceneIndex)
    (canvas : CartCanvas) :
    checkedRenderLegacyScene sine context which canvas
      = some (renderLegacyScene sine context which canvas) := by
  obtain ⟨rowStart, rowEnd, frame, phase⟩ := context
  have ht := within_legacyFramePhase frame
  rw [checkedRenderLegacyScene, ht.bind rfl]
  cases phase with
  | rows =>
    refine (bind_of_eq (checkedRows_eq hsine (ht.var rfl) hstart hend which canvas.pixels) _).trans ?_
    match which with
    | 0 | 1 | 2 | 3 | 4 | 5 => rfl
  | overlay => exact checkedOverlay_eq (ht.var rfl) hsine which

omit [Target] in
/-- The last frame, in the middle one of three bands, with a table whose values are all at the limit. -/
theorem checkedRenderLegacyScene_eq_last_frame :
    letI := armv7
    checkedRenderLegacyScene (fun _ => -1024)
        { rowStart := 60, rowEnd := 120, frame := 18446744073709551615, phase := .rows } 2
        (lowCanvas (.replicate (logicalWidth * logicalHeight) 0))
      = some (renderLegacyScene (fun _ => -1024)
          { rowStart := 60, rowEnd := 120, frame := 18446744073709551615, phase := .rows } 2
          (lowCanvas (.replicate (logicalWidth * logicalHeight) 0))) :=
  @checkedRenderLegacyScene_eq armv7 (fun _ => -1024) (fun _ _ => ⟨by decide, by decide⟩)
    { rowStart := 60, rowEnd := 120, frame := 18446744073709551615, phase := .rows }
    (by decide) (by decide) 2 (lowCanvas (.replicate (logicalWidth * logicalHeight) 0))

end Rendering

end VitaLinuxPort
