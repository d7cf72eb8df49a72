import Mathlib.Algebra.Field.Rat
import Mathlib.Algebra.Group.Basic
import Mathlib.Data.Int.Range

/-!
# Python

What the scripts use of the language: floats, of whose operations nothing is assumed; `int` of bytes;
indexes that may count from the end; and `max` with a key. An operation that may raise gives an
`Option`.
-/

namespace VitaLinuxPort

namespace Python

/-- A type of floats. `lit n d` is the float nearest to `n / d`; `round` is `none` where there is no
integer to round to. -/
class PyFloat (F : Type) where
  lit : Int → Nat → F
  add : F → F → F
  sub : F → F → F
  mul : F → F → F
  div : F → F → F
  abs : F → F
  lt : F → F → Bool
  le : F → F → Bool
  eq : F → F → Bool
  round : F → Option Int

/-- Exact numbers, of which halves go to the even side. -/
instance : PyFloat ℚ where
  lit n d := n / d
  add x y := x + y
  sub x y := x - y
  mul x y := x * y
  div x y := x / y
  abs := Rat.abs
  lt x y := decide (x < y)
  le x y := decide (x ≤ y)
  eq x y := decide (x = y)
  round x :=
    let low := x.floor
    if x - low < 1 / 2 then some low
    else if 1 / 2 < x - low then some (low + 1)
    else if low % 2 = 0 then some low
    else some (low + 1)

section Exact

variable (x y : ℚ)

@[simp] theorem lit_rat (n : Int) (d : Nat) : (PyFloat.lit n d : ℚ) = n / d := rfl

@[simp] theorem add_rat : PyFloat.add x y = x + y := rfl

@[simp] theorem sub_rat : PyFloat.sub x y = x - y := rfl

@[simp] theorem mul_rat : PyFloat.mul x y = x * y := rfl

@[simp] theorem div_rat : PyFloat.div x y = x / y := rfl

end Exact

section Floats

variable {F : Type} [PyFloat F]

def ofInt (n : Int) : F := PyFloat.lit n 1

@[simp] theorem ofInt_rat (n : Int) : (ofInt n : ℚ) = n := by
  simp [ofInt]

/-- `min` of two floats. -/
def min (first second : F) : F := if PyFloat.lt second first then second else first

/-- Whether `float` is true in a condition. -/
def truthy (x : F) : Bool := !PyFloat.eq x (ofInt 0)

end Floats

def isSpace (c : UInt8) : Bool := [9, 10, 11, 12, 13, 32].contains c

def isDigit (c : UInt8) : Bool := 48 ≤ c && c ≤ 57

/-- Digits, with single underscores between them; `digit` tells whether a digit came just before. -/
def digitsValue (value : Nat) (digit : Bool) : List UInt8 → Option Nat
  | [] => if digit then some value else none
  | c :: rest =>
      if isDigit c then digitsValue (value * 10 + (c.toNat - 48)) true rest
      else if c = 95 ∧ digit then digitsValue value false rest
      else none

/-- `int` of bytes, without the limit on the number of digits that newer versions have. -/
def intOfBytes (token : List UInt8) : Option Int :=
  let stripped := ((token.dropWhile isSpace).reverse.dropWhile isSpace).reverse
  match stripped with
  | 45 :: digits => (digitsValue 0 false digits).map fun value => -(value : Int)
  | 43 :: digits => (digitsValue 0 false digits).map Int.ofNat
  | digits => (digitsValue 0 false digits).map Int.ofNat

variable {α β : Type*}

/-- `l[i]`. -/
def index (l : List α) (i : Int) : Option α :=
  if 0 ≤ i then l[i.toNat]? else if 0 ≤ i + l.length then l[(i + l.length).toNat]? else none

theorem index_natCast {l : List α} {n : Nat} (h : n < l.length) (default : α) :
    index l n = some (l.getD n default) := by
  rw [index, if_pos (Int.natCast_nonneg n), Int.toNat_natCast, List.getD_eq_getElem?_getD,
    List.getElem?_eq_getElem h]
  rfl

/-- `l[:n]`. -/
def takeTo (l : List α) (n : Int) : List α :=
  if 0 ≤ n then l.take n.toNat else l.take (l.length + n).toNat

/-- `l[first:last]`, of indexes that do not count from the end. -/
def slice (l : List α) (first last : Nat) : List α := (l.take last).drop first

theorem getElem?_slice (l : List α) (first last i : Nat) :
    (slice l first last)[i]? = if first + i < last then l[first + i]? else none := by
  rw [slice, List.getElem?_drop, List.getElem?_take]

/-- `int.from_bytes(bytes, "little")`, without a sign. -/
def fromBytesLittle (bytes : List UInt8) : Nat :=
  bytes.foldr (fun c value => c.toNat + 256 * value) 0

/-- `int.from_bytes(bytes, "big")`, without a sign. -/
def fromBytesBig (bytes : List UInt8) : Nat :=
  bytes.foldl (fun value c => 256 * value + c.toNat) 0

/-- A computation that may raise goes on from what it gave. -/
theorem bind_eq_ok {ε α β : Type} {first : Except ε α} {next : α → Except ε β} {b : β} :
    (first >>= next) = .ok b ↔ ∃ a, first = .ok a ∧ next a = .ok b := by
  cases first with
  | error e => exact iff_of_false (fun h => nomatch h) (fun ⟨_, h, _⟩ => nomatch h)
  | ok a => exact ⟨fun h => ⟨a, rfl, h⟩, fun ⟨_, h, hnext⟩ => Except.ok.inj h ▸ hnext⟩

/-- `max` of a list that begins with `best`, where `gt` compares the keys. -/
def maxBy (gt : α → α → Bool) (best : α) (l : List α) : α :=
  l.foldl (fun best a => if gt a best then a else best) best

section Max

variable {gt : α → α → Bool}

theorem maxBy_mem (best : α) (l : List α) : maxBy gt best l ∈ best :: l := by
  induction l generalizing best with
  | nil => exact List.mem_cons_self
  | cons a l ih =>
    rw [maxBy, List.foldl_cons, ← maxBy]
    obtain h | h := List.mem_cons.mp (ih (if gt a best then a else best))
    · rw [h]
      split
      · exact List.mem_cons_of_mem _ List.mem_cons_self
      · exact List.mem_cons_self
    · exact List.mem_cons_of_mem _ (List.mem_cons_of_mem _ h)

/-- Nothing on the list comes after the maximum in an order that the comparison of the keys refines. -/
theorem le_maxBy {le : α → α → Prop} (hrefl : ∀ a, le a a) (htrans : ∀ a b c, le a b → le b c → le a c)
    (hgt : ∀ a b, gt a b = true → le b a) (hnot : ∀ a b, gt a b = false → le a b) (best : α)
    (l : List α) : ∀ a ∈ best :: l, le a (maxBy gt best l) := by
  induction l generalizing best with
  | nil =>
    intro a ha
    rw [List.mem_singleton.mp ha]
    exact hrefl best
  | cons b l ih =>
    intro a ha
    rw [maxBy, List.foldl_cons, ← maxBy]
    cases hb : gt b best with
    | true =>
      have hbest := ih b b List.mem_cons_self
      rw [if_pos rfl]
      obtain rfl | ha := List.mem_cons.mp ha
      · exact htrans _ _ _ (hgt _ _ hb) hbest
      · exact ih b a ha
    | false =>
      have hbest := ih best best List.mem_cons_self
      rw [if_neg Bool.false_ne_true]
      obtain rfl | ha := List.mem_cons.mp ha
      · exact hbest
      · obtain rfl | ha := List.mem_cons.mp ha
        · exact htrans _ _ _ (hnot _ _ hb) hbest
        · exact ih best a (List.mem_cons_of_mem _ ha)

end Max

/-- Digits without an underscore are a number. -/
theorem digitsValue_eq {value : Nat} {digit : Bool} {digits : List UInt8}
    (hdigits : ∀ c ∈ digits, isDigit c = true) (hsome : digit = true ∨ digits ≠ []) :
    digitsValue value digit digits
      = some (digits.foldl (fun value c => value * 10 + (c.toNat - 48)) value) := by
  induction digits generalizing value digit with
  | nil =>
    obtain rfl | h := hsome
    · rfl
    · exact absurd rfl h
  | cons c rest ih =>
    have hall := List.forall_mem_cons.mp hdigits
    rw [digitsValue, if_pos hall.1, ih hall.2 (.inl rfl), List.foldl_cons]

end Python

end VitaLinuxPort
