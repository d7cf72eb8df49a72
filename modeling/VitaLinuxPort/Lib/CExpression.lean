import Mathlib.Algebra.Order.Ring.Abs
import Mathlib.Algebra.Order.Ring.Int
import Mathlib.Data.Int.Bitwise
import Mathlib.Data.Int.Range
import VitaLinuxPort.Lib.CInt

/-!
# C expressions and the ranges of their values

An expression of type `int` is its value, or none where evaluating it leaves the type or divides by
zero; its operators are those of C. Ranges of the operands give a range of the result. So an
expression has a value where the ranges of its parts, from the inside out, lie in the type.
-/

namespace VitaLinuxPort

open CIntType

/-- An expression of type `int`. A variable of that type is its value, so an integer. -/
abbrev CExpression := Option Int

namespace CExpression

def binary (operator : Int → Int → Option Int) (left right : CExpression) : CExpression := do
  operator (← left) (← right)

scoped instance (n : Nat) : OfNat CExpression n := ⟨int32.fit n⟩

scoped instance : Add CExpression := ⟨binary int32.add⟩

scoped instance : Sub CExpression := ⟨binary int32.sub⟩

scoped instance : Mul CExpression := ⟨binary int32.mul⟩

scoped instance : Div CExpression := ⟨binary int32.div⟩

/-- `%` is defined where `/` is. -/
scoped instance : Mod CExpression :=
  ⟨binary fun left right => do
    let _ ← int32.div left right
    return left.tmod right⟩

scoped instance : Neg CExpression := ⟨fun expression => do int32.fit (-(← expression))⟩

/-- `>>` keeps the sign. -/
def shiftRight (expression : CExpression) (count : Nat) : CExpression :=
  expression.map fun value : Int => value >>> count

/-- `&` with a mask of the lowest bits, which leaves the remainder. -/
def bitAnd (expression : CExpression) (mask : Nat) : CExpression :=
  expression.map fun value : Int => value % (mask + 1)

/-- `^`. -/
def bitXor (left right : CExpression) : CExpression := do return Int.xor (← left) (← right)

/-- `abs`. -/
protected def abs (expression : CExpression) : CExpression := do int32.fit |← expression|

/-- A loop over the integers from `first` to before `last`, with the increment of its variable. -/
def loop {State : Type} (first last : Int) (turn : State → Int → Option State) (state : State) :
    Option State :=
  (Int.range first last).foldlM (fun state i => do
    let state ← turn state i
    let _ ← (i + 1 : CExpression)
    return state) state

/-- Where the conditions `ok` of its parts hold, the expression has this value and the value lies
between these bounds. -/
def Within (ok : Bool) (expression : CExpression) (value low high : Int) : Prop :=
  ok = true → expression = some value ∧ low ≤ value ∧ value ≤ high

/-- The bounds are bounds of the type. -/
def Fits (low high : Int) : Prop := -2147483648 ≤ low ∧ high ≤ 2147483647

instance (low high : Int) : Decidable (Fits low high) := inferInstanceAs (Decidable (_ ∧ _))

theorem holds_of_fits {low high value : Int} (h : Fits low high) (hlow : low ≤ value)
    (hhigh : value ≤ high) : int32.Holds value :=
  ⟨h.1.trans hlow, hhigh.trans h.2⟩

theorem of_condition {ok : Bool} {p : Prop} [Decidable p] (h : (ok && decide p) = true) :
    ok = true ∧ p :=
  ⟨Bool.and_elim_left h, of_decide_eq_true (Bool.and_elim_right h)⟩

theorem of_conditions {ok ok' : Bool} {p : Prop} [Decidable p]
    (h : (ok && ok' && decide p) = true) : ok = true ∧ ok' = true ∧ p := by
  obtain ⟨hoks, hp⟩ := of_condition h
  exact ⟨Bool.and_elim_left hoks, Bool.and_elim_right hoks, hp⟩

/-- A step that has a result hands it on. -/
theorem bind_of_eq {α β : Type} {step : Option α} {result : α} (h : step = some result)
    (next : α → Option β) : (step >>= next) = next result := by
  rw [h]
  rfl

theorem ite_eq_some {α : Type} {p : Prop} [Decidable p] {step step' : Option α} {result result' : α}
    (h : p → step = some result) (h' : ¬p → step' = some result') :
    (if p then step else step') = some (if p then result else result') := by
  split
  · exact h (by assumption)
  · exact h' (by assumption)

namespace Within

variable {ok ok' : Bool} {e e' : CExpression} {v v' a b c d m m' : Int}

theorem eq (h : Within ok e v a b) (hok : ok = true) : e = some v := (h hok).1

theorem low_le (h : Within ok e v a b) (hok : ok = true) : a ≤ v := (h hok).2.1

theorem le_high (h : Within ok e v a b) (hok : ok = true) : v ≤ b := (h hok).2.2

theorem int (hlow : a ≤ v) (hhigh : v ≤ b) : Within true v v a b := fun _ => ⟨rfl, hlow, hhigh⟩

/-- The value, once it is assigned to a variable. -/
theorem var (h : Within ok e v a b) (hok : ok = true) : Within true v v a b :=
  .int (h.low_le hok) (h.le_high hok)

theorem bind {α : Type} (h : Within ok e v a b) (hok : ok = true) (f : Int → Option α) :
    (e >>= f) = f v :=
  bind_of_eq (h.eq hok) f

theorem lit (n : Nat) :
    Within (decide (Fits 0 n)) (OfNat.ofNat n) (OfNat.ofNat n) (OfNat.ofNat n) (OfNat.ofNat n) := by
  intro hok
  have hfits : Fits 0 n := of_decide_eq_true hok
  exact ⟨fit_of_holds (holds_of_fits hfits (Int.natCast_nonneg n) le_rfl), le_rfl, le_rfl⟩

theorem mono (h : Within ok e v a b) (c d : Int) :
    Within (ok && decide (c ≤ a ∧ b ≤ d)) e v c d := by
  intro hcondition
  obtain ⟨hok, hlow, hhigh⟩ := of_condition hcondition
  exact ⟨h.eq hok, hlow.trans (h.low_le hok), (h.le_high hok).trans hhigh⟩

theorem ite {p : Prop} [Decidable p] (h : Within ok e v a b) (h' : Within ok' e' v' c d) :
    Within (ok && ok') (if p then e else e') (if p then v else v') (min a c) (max b d) := by
  intro hoks
  have hok := Bool.and_elim_left hoks
  have hok' := Bool.and_elim_right hoks
  split
  · exact ⟨h.eq hok, (min_le_left a c).trans (h.low_le hok), (h.le_high hok).trans (le_max_left b d)⟩
  · exact ⟨h'.eq hok', (min_le_right a c).trans (h'.low_le hok'),
      (h'.le_high hok').trans (le_max_right b d)⟩

theorem binary_eq {operator : Int → Int → Option Int} (h : Within ok e v a b)
    (h' : Within ok' e' v' c d) (hok : ok = true) (hok' : ok' = true) :
    binary operator e e' = operator v v' := by
  rw [binary, h.bind hok, h'.bind hok']

theorem add (h : Within ok e v a b) (h' : Within ok' e' v' c d) :
    Within (ok && ok' && decide (Fits (a + c) (b + d))) (e + e') (v + v') (a + c) (b + d) := by
  intro hconditions
  obtain ⟨hok, hok', hfits⟩ := of_conditions hconditions
  have hlow := add_le_add (h.low_le hok) (h'.low_le hok')
  have hhigh := add_le_add (h.le_high hok) (h'.le_high hok')
  exact ⟨(binary_eq h h' hok hok').trans (add_of_holds (holds_of_fits hfits hlow hhigh)), hlow, hhigh⟩

theorem sub (h : Within ok e v a b) (h' : Within ok' e' v' c d) :
    Within (ok && ok' && decide (Fits (a - d) (b - c))) (e - e') (v - v') (a - d) (b - c) := by
  intro hconditions
  obtain ⟨hok, hok', hfits⟩ := of_conditions hconditions
  have hlow := sub_le_sub (h.low_le hok) (h'.le_high hok')
  have hhigh := sub_le_sub (h.le_high hok) (h'.low_le hok')
  exact ⟨(binary_eq h h' hok hok').trans (sub_of_holds (holds_of_fits hfits hlow hhigh)), hlow, hhigh⟩

theorem neg (h : Within ok e v a b) :
    Within (ok && decide (Fits (-b) (-a))) (-e) (-v) (-b) (-a) := by
  intro hcondition
  obtain ⟨hok, hfits⟩ := of_condition hcondition
  have hlow := neg_le_neg (h.le_high hok)
  have hhigh := neg_le_neg (h.low_le hok)
  exact ⟨(h.bind hok _).trans (fit_of_holds (holds_of_fits hfits hlow hhigh)), hlow, hhigh⟩

/-- A number that is written down scales the range. -/
theorem scale (h : Within ok e v a b) (n : Nat) :
    Within (ok && decide (Fits 0 n ∧ Fits (a * n) (b * n))) (e * OfNat.ofNat n)
      (v * OfNat.ofNat n) (a * n) (b * n) := by
  intro hcondition
  obtain ⟨hok, hn, hfits⟩ := of_condition hcondition
  have hlow := mul_le_mul_of_nonneg_right (h.low_le hok) (Int.natCast_nonneg n)
  have hhigh := mul_le_mul_of_nonneg_right (h.le_high hok) (Int.natCast_nonneg n)
  exact ⟨(binary_eq h (lit n) hok (decide_eq_true hn)).trans
    (mul_of_holds (holds_of_fits hfits hlow hhigh)), hlow, hhigh⟩

/-- Factors that are not above `m` and `m'` in magnitude. -/
theorem mul (h : Within ok e v a m) (h' : Within ok' e' v' c m') :
    Within (ok && ok' && decide (-m ≤ a ∧ -m' ≤ c ∧ Fits (-(m * m')) (m * m')))
      (e * e') (v * v') (-(m * m')) (m * m') := by
  intro hconditions
  obtain ⟨hok, hok', ha, hc, hfits⟩ := of_conditions hconditions
  have hv : |v| ≤ m := abs_le.mpr ⟨ha.trans (h.low_le hok), h.le_high hok⟩
  have hv' : |v'| ≤ m' := abs_le.mpr ⟨hc.trans (h'.low_le hok'), h'.le_high hok'⟩
  have hprod : |v * v'| ≤ m * m' := by
    rw [abs_mul]
    exact mul_le_mul hv hv' (abs_nonneg v') ((abs_nonneg v).trans hv)
  obtain ⟨hlow, hhigh⟩ := abs_le.mp hprod
  exact ⟨(binary_eq h h' hok hok').trans (mul_of_holds (holds_of_fits hfits hlow hhigh)), hlow, hhigh⟩

theorem mul_nonneg (h : Within ok e v a b) (h' : Within ok' e' v' c d) :
    Within (ok && ok' && decide (0 ≤ a ∧ 0 ≤ c ∧ Fits 0 (b * d))) (e * e') (v * v') 0 (b * d) := by
  intro hconditions
  obtain ⟨hok, hok', ha, hc, hfits⟩ := of_conditions hconditions
  have hv := ha.trans (h.low_le hok)
  have hv' := hc.trans (h'.low_le hok')
  have hhigh' := h.le_high hok
  have hlow : 0 ≤ v * v' := Int.mul_nonneg hv hv'
  have hhigh : v * v' ≤ b * d := mul_le_mul hhigh' (h'.le_high hok') hv' (hv.trans hhigh')
  exact ⟨(binary_eq h h' hok hok').trans (mul_of_holds (holds_of_fits hfits hlow hhigh)), hlow, hhigh⟩

theorem sq (h : Within ok e v a m) :
    Within (ok && decide (-m ≤ a ∧ Fits (-(m * m)) (m * m))) (e * e) (v * v) 0 (m * m) := by
  intro hcondition
  obtain ⟨hok, ha, hfits⟩ := of_condition hcondition
  obtain ⟨heq, -, hhigh⟩ := h.mul h (by rw [hok, decide_eq_true ⟨ha, ha, hfits⟩]; rfl)
  exact ⟨heq, mul_self_nonneg v, hhigh⟩

theorem tdiv_mem (hlow : a ≤ v) (hhigh : v ≤ b) (ha : a ≤ 0) (hb : 0 ≤ b) (hpos : 0 < v') :
    a ≤ v.tdiv v' ∧ v.tdiv v' ≤ b := by
  have hle := Int.natAbs_tdiv_le_natAbs v v'
  obtain hv | hv := Int.le_total 0 v
  · have hquot := Int.tdiv_nonneg hv hpos.le
    omega
  · have hquot := Int.tdiv_nonneg (Int.neg_nonneg_of_nonpos hv) hpos.le
    rw [Int.neg_tdiv] at hquot
    omega

theorem div (h : Within ok e v a b) (h' : Within ok' e' v' c d) :
    Within (ok && ok' && decide (0 < c ∧ a ≤ 0 ∧ 0 ≤ b ∧ Fits a b)) (e / e') (v.tdiv v') a b := by
  intro hconditions
  obtain ⟨hok, hok', hc, ha, hb, hfits⟩ := of_conditions hconditions
  have hpos := hc.trans_le (h'.low_le hok')
  obtain ⟨hlow, hhigh⟩ := tdiv_mem (h.low_le hok) (h.le_high hok) ha hb hpos
  exact ⟨(binary_eq h h' hok hok').trans
    (div_of_holds hpos.ne' (holds_of_fits hfits hlow hhigh)), hlow, hhigh⟩

/-- The remainder by a number that is written down. -/
theorem mod (h : Within ok e v a b) (n : Nat) :
    Within (ok && decide (0 ≤ a ∧ Fits 0 b ∧ Fits 0 n ∧ 0 < n)) (e % OfNat.ofNat n)
      (v.tmod (OfNat.ofNat n)) 0 (n - 1) := by
  intro hcondition
  obtain ⟨hok, ha, hfits, hn, hpos⟩ := of_condition hcondition
  have hnonneg := ha.trans (h.low_le hok)
  have hhigh := h.le_high hok
  have hpos : 0 < (n : Int) := Int.natCast_pos.mpr hpos
  obtain ⟨hquotlow, hquothigh⟩ := tdiv_mem hnonneg hhigh le_rfl (hnonneg.trans hhigh) hpos
  have hquot : int32.div v (OfNat.ofNat n) = some (v.tdiv (OfNat.ofNat n)) :=
    div_of_holds hpos.ne' (holds_of_fits hfits hquotlow hquothigh)
  refine ⟨(binary_eq h (lit n) hok (decide_eq_true hn)).trans ?_, Int.tmod_nonneg _ hnonneg,
    Int.le_sub_one_of_lt (Int.tmod_lt_of_pos v hpos)⟩
  rw [hquot]
  rfl

theorem shiftRight (h : Within ok e v a b) (count : Nat) :
    Within ok (e.shiftRight count) (v >>> count) (a >>> count) (b >>> count) := by
  intro hok
  have hpos : 0 < ((2 ^ count : Nat) : Int) := Int.natCast_pos.mpr (Nat.two_pow_pos count)
  refine ⟨?_, ?_, ?_⟩
  · rw [h.eq hok]
    rfl
  · rw [Int.shiftRight_eq_div_pow, Int.shiftRight_eq_div_pow]
    exact Int.ediv_le_ediv hpos (h.low_le hok)
  · rw [Int.shiftRight_eq_div_pow, Int.shiftRight_eq_div_pow]
    exact Int.ediv_le_ediv hpos (h.le_high hok)

theorem bitXor_eq (h : Within ok e v a b) (h' : Within ok' e' v' c d) (hok : ok = true)
    (hok' : ok' = true) : e.bitXor e' = some (Int.xor v v') := by
  rw [bitXor, h.bind hok, h'.bind hok']
  rfl

/-- Whatever the value, its lowest bits are below the mask. -/
theorem bitAnd (h : e = some v) (mask : Nat) :
    Within true (e.bitAnd mask) (v % (mask + 1)) 0 mask := by
  have hpos : (0 : Int) < mask + 1 := by omega
  have hlow := Int.emod_nonneg v hpos.ne'
  have hhigh := Int.emod_lt_of_pos v hpos
  exact fun _ => ⟨by rw [h]; rfl, hlow, by omega⟩

theorem abs (h : Within ok e v a m) :
    Within (ok && decide (-m ≤ a ∧ m ≤ 2147483647)) e.abs |v| 0 m := by
  intro hcondition
  obtain ⟨hok, ha, hm⟩ := of_condition hcondition
  have hle : |v| ≤ m := abs_le.mpr ⟨ha.trans (h.low_le hok), h.le_high hok⟩
  have hholds : int32.Holds |v| := ⟨le_trans (by decide) (abs_nonneg v), hle.trans hm⟩
  refine ⟨?_, abs_nonneg v, hle⟩
  rw [CExpression.abs, h.bind hok, fit_of_holds hholds]

end Within

section Loop

variable {State : Type} {turn : State → Int → Option State} {exact : State → Int → State}
  {first last : Int}

theorem range_cons (h : first < last) :
    Int.range first last = first :: Int.range (first + 1) last := by
  have hcount : (last - first).toNat = (last - (first + 1)).toNat + 1 := by omega
  rw [Int.range, Int.range, hcount, List.range_succ_eq_map, List.map_cons, List.map_map]
  refine congrArg₂ List.cons (Int.add_zero first) (List.map_congr_left fun i _ => ?_)
  simp only [Function.comp_apply, Nat.succ_eq_add_one, Nat.cast_add, Nat.cast_one]
  omega

theorem range_nil (h : last ≤ first) : Int.range first last = [] := by
  rw [Int.range, Int.toNat_of_nonpos (by omega)]
  rfl

/-- A loop each turn of which has a result, while a fact about its state lasts. -/
theorem loop_eq {P : Int → State → Prop} (hfirst : -2147483648 ≤ first) (hlast : last ≤ 2147483647)
    (hturn : ∀ i, first ≤ i → i < last → ∀ state, P i state →
      turn state i = some (exact state i) ∧ P (i + 1) (exact state i))
    {state : State} (hstate : P first state) :
    loop first last turn state = some ((Int.range first last).foldl exact state) ∧
      P (max first last) ((Int.range first last).foldl exact state) := by
  rw [loop]
  induction hcount : (last - first).toNat generalizing first state with
  | zero =>
    rw [range_nil (by omega), max_eq_left (by omega)]
    exact ⟨rfl, hstate⟩
  | succ count ih =>
    have hlt : first < last := by omega
    obtain ⟨hresult, hkept⟩ := hturn first le_rfl hlt state hstate
    have hvariable : Within true first first (-2147483648) 2147483646 := .int hfirst (by omega)
    have hnext := (hvariable.add (.lit 1)).eq rfl
    have hmax : max first last = max (first + 1) last := by omega
    rw [range_cons hlt, List.foldlM_cons, hresult, List.foldl_cons, hmax]
    simp only [Option.bind_eq_bind, Option.bind_some, hnext, Option.pure_def]
    exact ih (by omega) (fun i hi => hturn i (by omega)) hkept (by omega)

theorem loop_eq_of_turn (hfirst : -2147483648 ≤ first) (hlast : last ≤ 2147483647)
    (hturn : ∀ i, first ≤ i → i < last → ∀ state, turn state i = some (exact state i))
    (state : State) : loop first last turn state = some ((Int.range first last).foldl exact state) :=
  (@loop_eq _ _ _ _ _ (fun _ _ => True) hfirst hlast
    (fun i hi hi' state _ => ⟨hturn i hi hi' state, trivial⟩) state trivial).1

end Loop

end CExpression

end VitaLinuxPort
